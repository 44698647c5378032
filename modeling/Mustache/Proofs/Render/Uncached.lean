import Mathlib.Data.List.Induction
import Mustache.Proofs.Render.Walk

/-!
# A renderer that keeps nothing

This renderer asks the store at every partial tag that it comes to, and makes a list of its
**requests**: the name and the indentation, and what came of it. The indentation is part of a
request, for the text of a partial is indented before it is read, and so the same name stands for
other documents at other places.

It renders as the direct rendering does, and asks for the same names (`Uncached.render_tells`).
-/

namespace Mustache

open RenderEvent

/-- The name that the store was asked for. -/
def RenderEvent.asked? : RenderEvent → Option Chars
  | .asked name => some name
  | _ => none

/-- **The names that the store was asked for**, among events. -/
def RenderEvent.askedNames (events : List RenderEvent) : List Chars := events.filterMap asked?

/-- **A request**, by name and indentation, and what came of it: a document, nothing, or a fault. -/
structure Request where
  key : PartialKey
  outcome : Except Fault (Option Document)

namespace Request

/-- The name that the store is asked for. -/
def name (request : Request) : Chars := request.key.1

end Request

/-! ## The renderer -/

/-- **A computation that asks the store**, and makes a list of the requests, latest first. -/
abbrev Asking := ExceptT Fault (StateM (List Request))

namespace Asking

/-- An answer, or its fault, for which no request is made. -/
def lift {α : Type} (outcome : Except Fault α) : Asking α := fun log => (outcome, log)

variable {α β : Type} {first : Asking α} {log middle : List Request}

theorem bind_of_ok {a : α} (h : first log = (.ok a, middle)) (second : α → Asking β) :
    (first >>= second) log = second a middle := by
  show (ExceptT.bindCont second (first log).1) (first log).2 = _
  rw [h]
  rfl

theorem bind_of_error {fault : Fault} (h : first log = (.error fault, middle))
    (second : α → Asking β) : (first >>= second) log = (.error fault, middle) := by
  show (ExceptT.bindCont second (first log).1) (first log).2 = _
  rw [h]
  rfl

end Asking

namespace Uncached

/-- **The value of a name**; no request is made for it. -/
def resolveName (settings : RenderSettings) (scope : Scope) (name : Chars) : Asking Value :=
  .lift (Direct.resolveName settings scope name).outcome

/-- **The document of a partial**, asked for and read anew. -/
def readPartial (settings : RenderSettings) (fetch : Chars → Except Fault Chars)
    (name indent : Chars) : Asking (Option Document) := fun log =>
  let outcome := (Direct.readPartial settings fetch name indent).outcome
  (outcome, ⟨(name, indent), outcome⟩ :: log)

/-- What the renderer walks with. -/
def walk (settings : RenderSettings) (inclusion : Scope → Chars → Chars → Asking Chars) :
    Walk Asking where
  resolve := resolveName settings
  items value := .lift value.items
  print escaped value := .lift (printValue settings escaped value)
  inclusion := inclusion
  call := id

/-- **What a partial tag means** with so much room for expansions. -/
def expand (settings : RenderSettings) (fetch : Chars → Except Fault Chars) :
    Nat → Scope → Chars → Chars → Asking Chars
  | room, scope, name, indent => do
    match ← readPartial settings fetch name indent with
    | none => return []
    | some document =>
      match room with
      | 0 => throw (.tooDeep name settings.limit)
      | room + 1 => (walk settings (expand settings fetch room)).nodes document.children scope

/-- **Renders a node**, and asks at every partial tag. -/
def render (settings : RenderSettings) (fetch : Chars → Except Fault Chars) (node : Node)
    (scope : Scope) : Asking Chars :=
  (walk settings (expand settings fetch settings.limit.bound.toNat)).node node scope

/-- **The requests of renderings one after the other**, however each ended, latest first. -/
def requests (settings : RenderSettings) (fetch : Chars → Except Fault Chars)
    (calls : List (Node × Scope)) : List Request :=
  calls.foldl (fun log call => (render settings fetch call.1 call.2 log).2) []

/-! ## It renders directly -/

/-- **Requests that tell of an account**: they end as it does, and ask for the names that it tells
of. -/
def Tells {α : Type} (asking : Asking α) (account : Account α) : Prop :=
  ∀ log, (asking log).1 = account.outcome
    ∧ (asking log).2.map Request.name = (askedNames account.told).reverse ++ log.map Request.name

namespace Tells

variable {α β : Type}

theorem pure (a : α) : Tells (Pure.pure a) (Pure.pure a) := fun _ => ⟨rfl, rfl⟩

theorem lift (outcome : Except Fault α) : Tells (.lift outcome) (.lift outcome) :=
  fun _ => ⟨rfl, rfl⟩

theorem bind {first : Asking α} {account : Account α} {second : α → Asking β}
    {next : α → Account β} (hfirst : Tells first account)
    (hsecond : ∀ a, Tells (second a) (next a)) : Tells (first >>= second) (account >>= next) := by
  intro log
  obtain ⟨houtcome, hnames⟩ := hfirst log
  cases hresult : first log with
  | mk outcome middle =>
    rw [hresult] at houtcome hnames
    cases outcome with
    | error fault =>
      rw [Asking.bind_of_error hresult, Account.bind_of_error houtcome.symm]
      exact ⟨rfl, hnames⟩
    | ok a =>
      obtain ⟨houtcome', hnames'⟩ := hsecond a middle
      rw [Asking.bind_of_ok hresult, Account.bind_of_ok houtcome.symm]
      refine ⟨houtcome', ?_⟩
      rw [hnames', hnames]
      unfold askedNames
      rw [List.filterMap_append, List.reverse_append, List.append_assoc]

/-- The correspondence of the two ways to render. -/
def correspondence : Correspondence Asking Account := ⟨Tells, Tells.pure, Tells.bind⟩

end Tells

variable (settings : RenderSettings) (fetch : Chars → Except Fault Chars)

theorem resolveName_tells (scope : Scope) (name : Chars) :
    Tells (resolveName settings scope name) (Direct.resolveName settings scope name) := by
  intro log
  have hnone : askedNames (Direct.resolveName settings scope name).told = [] := by
    unfold Direct.resolveName
    split
    · rfl
    · split <;> rfl
    · rfl
  rw [hnone]
  exact ⟨rfl, rfl⟩

theorem readPartial_tells (name indent : Chars) :
    Tells (readPartial settings fetch name indent)
      (Direct.readPartial settings fetch name indent) := by
  intro log
  have hasked : askedNames (Direct.readPartial settings fetch name indent).told = [name] := by
    unfold Direct.readPartial
    rw [Account.bind_of_ok rfl]
    split
    · cases Document.parse (indentText indent _) <;> rfl
    · split <;> rfl
    · rfl
  rw [hasked]
  exact ⟨rfl, rfl⟩

theorem walk_tells {inclusion : Scope → Chars → Chars → Asking Chars}
    {direct : Direct.Expansion}
    (h : ∀ scope name indent, Tells (inclusion scope name indent) (direct scope name indent)) :
    Walk.Corresponds Tells.correspondence (walk settings inclusion)
      (Direct.walk settings direct) where
  resolve := resolveName_tells settings
  items value := Tells.lift value.items
  print escaped value := Tells.lift (printValue settings escaped value)
  inclusion := h
  call h := h

theorem expand_tells (room : Nat) (scope : Scope) (name indent : Chars) :
    Tells (expand settings fetch room scope name indent)
      (Direct.expand settings fetch room scope name indent) := by
  induction room generalizing scope name indent with
  | zero =>
    unfold expand Direct.expand
    refine (readPartial_tells settings fetch name indent).bind ?_
    intro kept
    cases kept with
    | none => exact .pure []
    | some document => exact fun log => ⟨rfl, rfl⟩
  | succ room ih =>
    unfold expand Direct.expand
    refine (readPartial_tells settings fetch name indent).bind ?_
    intro kept
    cases kept with
    | none => exact .pure []
    | some document =>
      intro log
      have hbody := Walk.corresponds_nodes (walk_tells settings ih) document.children scope log
      rw [Direct.walk_nodes] at hbody
      refine ⟨hbody.1, hbody.2.trans ?_⟩
      show _ = (askedNames (.opened name :: (_ ++ [.closed]))).reverse ++ _
      unfold askedNames
      rw [List.filterMap_cons_none rfl, List.filterMap_append, List.filterMap_cons_none rfl,
        List.filterMap_nil, List.append_nil]

/-- **The renderer that keeps nothing renders directly**, and its requests are for the names that
the direct rendering asks for. -/
theorem render_tells (node : Node) (scope : Scope) :
    Tells (render settings fetch node scope) (Direct.render settings fetch node scope) := by
  have hwalk := walk_tells settings (expand_tells settings fetch settings.limit.bound.toNat)
  unfold render Direct.render
  rw [← Direct.walk_node]
  exact Walk.corresponds_node hwalk node scope

/-- The requests are for the names that the direct renderings ask for. -/
theorem map_name_requests (calls : List (Node × Scope)) :
    (requests settings fetch calls).map Request.name
      = (calls.flatMap fun call =>
          askedNames (Direct.render settings fetch call.1 call.2).told).reverse := by
  induction calls using List.reverseRecOn with
  | nil => rfl
  | append_singleton calls call ih =>
    obtain ⟨_, hnames⟩ := render_tells settings fetch call.1 call.2
      (requests settings fetch calls)
    rw [List.flatMap_append, List.reverse_append, ← ih, List.flatMap_singleton, ← hnames]
    unfold requests
    rw [List.foldl_append]
    rfl

end Uncached

end Mustache
