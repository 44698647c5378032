import Mustache.Proofs.Node.Nesting
import Mustache.Proofs.Render.Law
import Mustache.Proofs.Render.Live

/-!
# Faults on a stack

What may a rendering fail with, for a host that lives on, on a stack that may have an end? It fails
at a value that it **meets** (`LiveHost.Meets`), at a text or a partial, at a policy, or for want of
room for a partial (`LiveFault`); or no call is left.

How many calls are enough is known beforehand, where the calls for the document of a partial and
those for a question are bounded (`LiveHost.Bounded`): those for the node itself, those for one
question, and for each expansion that may be open those for one document (`Node.callsWithin`).

A computation **keeps** to the faults allowed (`Live.Keeps`) when it fails with no other, and for
want of a call only with fewer left than its budget. That is kept by each way of putting
computations together; a call adds one to the budget.

**The law** (`Live.keeps_renderSource`): compiling a template and rendering it keeps to the faults
of a rendering, with the calls that are enough for a budget.
-/

namespace Mustache

/-- A template that does not compile is one that is not read. -/
theorem Template.parse_of_compile_error {source : Chars} {fault : Fault}
    (h : Template.compile source = .error fault) : Document.parse source = .error fault := by
  rcases bind_eq_error.mp h with htokens | ⟨tokens, htokens, h⟩
  · exact bind_eq_error.mpr (.inl htokens)
  · rcases bind_eq_error.mp h with hdocument | ⟨document, -, h⟩
    · exact bind_eq_error.mpr (.inr ⟨tokens, htokens, hdocument⟩)
    · cases h

/-! ## The values that are met -/

/-- **A rendering may meet a value**: one of the data, as it is wrapped, or a member or an item that
a value met before gives at some moment, or none. -/
inductive LiveHost.Meets (host : LiveHost) (data : Data) : Value → Prop
  | given {value : Value} (h : data = .value value) : Meets host data value
  | frame {scope : Scope} {frame : Value} (h : data = .scope scope)
      (hframe : frame ∈ scope.frames) : Meets host data frame
  | wrapped {value passed : Value} {moment : Nat} (h : Meets host data value)
      (hreflect : (host.now moment value).reflect = .ok passed) : Meets host data passed
  | member {value member : Value} {moment : Nat} {name : Chars} (h : Meets host data value)
      (hlookup : (host.now moment value).lookup name = .ok member) : Meets host data member
  | item {value item : Value} {items : List Value} {moment : Nat} (h : Meets host data value)
      (hitems : (host.now moment value).items = .ok items) (hitem : item ∈ items) :
      Meets host data item
  | absent : Meets host data .absent

/-- The frames of a scope are met. -/
def LiveHost.MeetsScope (host : LiveHost) (data : Data) (scope : Scope) : Prop :=
  ∀ frame ∈ scope.frames, host.Meets data frame

/-- The frames that the data make at a moment are met. -/
theorem LiveHost.meetsScope_of_toScope {host : LiveHost} {data : Data} {moment : Nat}
    {scope : Scope} (h : host.toScope moment data = .ok scope) : host.MeetsScope data scope := by
  intro frame hframe
  cases data with
  | value value =>
    cases hreflect : (host.now moment value).reflect with
    | error fault =>
      simp only [toScope, Scope.root, hreflect] at h
      cases h
    | ok passed =>
      simp only [toScope, Scope.root, hreflect] at h
      cases h
      cases List.mem_singleton.mp hframe
      exact .wrapped (.given rfl) hreflect
  | scope given =>
    cases h
    exact .frame rfl hframe

/-- **Where the fault of asking for a member comes from.** -/
inductive MemberFault (host : LiveHost) (data : Data) : Fault → Prop
  /-- A value that is met fails. -/
  | met {value : Value} {moment : Nat} {fault : Fault} (h : host.Meets data value)
      (hfails : (host.now moment value).MayFail fault) : MemberFault host data fault
  /-- The value has the member at one moment, and not at the next. -/
  | gone {value : Value} {moment : Nat} {name : Chars} (h : host.Meets data value)
      (hheld : (host.now moment value).has name = .ok true)
      (hgone : (host.now (moment + 1) value).lookup name = .error (.noMember name)) :
      MemberFault host data (.noMember name)

/-- Data that make no scope hide a class. -/
theorem memberFault_of_toScope {host : LiveHost} {data : Data} {moment : Nat} {fault : Fault}
    (h : host.toScope moment data = .error fault) : MemberFault host data fault := by
  cases data with
  | value value =>
    cases hreflect : (host.now moment value).reflect with
    | ok passed =>
      simp only [LiveHost.toScope, Scope.root, hreflect] at h
      cases h
    | error other =>
      simp only [LiveHost.toScope, Scope.root, hreflect] at h
      cases h
      exact .met (.given rfl) (.hidesClass (Value.hidesClass_of_reflect hreflect))
  | scope given => cases h

/-- **Where the fault of a rendering comes from**, for a host that lives on. -/
inductive LiveFault (settings : RenderSettings) (store : ChangingStore) (host : LiveHost)
    (data : Data) : Fault → Prop
  /-- A text cannot be read. -/
  | unreadable {source : Chars} {fault : Fault} (h : Document.parse source = .error fault) :
      LiveFault settings store host data fault
  /-- A partial cannot be loaded. -/
  | ofLoad {fault : Fault} (h : LoadFault settings store fault) :
      LiveFault settings store host data fault
  /-- There is no room left for a partial. -/
  | tooDeep (name : Chars) : LiveFault settings store host data (.tooDeep name settings.limit)
  /-- A name is missing, and the policy is to fail. -/
  | unresolved (name : Chars) (hpolicy : settings.missingVariables = .raise) :
      LiveFault settings store host data (.unresolved name)
  /-- A member cannot be had. -/
  | ofMember {fault : Fault} (h : MemberFault host data fault) :
      LiveFault settings store host data fault
  /-- A value that is met has no text. -/
  | text {value : Value} {moment : Nat} {fault : Fault} (h : host.Meets data value)
      (htext : (host.now moment value).text = .error fault) :
      LiveFault settings store host data fault
  /-- A value that is met does not say whether its text is safe. -/
  | safe {value : Value} {moment : Nat} {fault : Fault} (h : host.Meets data value)
      (hsafe : host.safe moment value = .error fault) : LiveFault settings store host data fault
  /-- A text cannot be escaped. -/
  | escape {escape : Chars → Except Fault Chars} {text : Chars} {fault : Fault}
      (hescape : settings.escape = some escape) (h : escape text = .error fault) :
      LiveFault settings store host data fault

/-! ## Calls -/

mutual

/-- How many calls stand on the stack at once for the node alone, without partials and questions. -/
def Node.callDepth : Node → Nat
  | .text _ => 0
  | .interpolation _ _ | .inclusion _ _ => 1
  | .block _ _ children => Node.callDepthAll children + 2
  | .document children => Node.callDepthAll children + 1

/-- How many calls stand on the stack at once for any of the nodes. -/
def Node.callDepthAll : List Node → Nat
  | [] => 0
  | node :: rest => max node.callDepth (Node.callDepthAll rest)

end

/-- **The calls of a rendering are bounded**: those for the document of any partial, and those that
a question takes. -/
structure LiveHost.Bounded (host : LiveHost) (store : ChangingStore) (nesting question : Nat) :
    Prop where
  documents (name indent : Chars) (document : Document)
    (hgives : store.Gives name indent document) : document.toNode.callDepth ≤ nesting
  questions (moment : Nat) : host.calls moment ≤ question

/-- **So many calls are enough** for a node with so much room for expansions: those for the node
alone and for a question, and for each expansion those for its document and one more. -/
def Node.callsWithin (node : Node) (room nesting question : Nat) : Nat :=
  node.callDepth + (question + room * (nesting + 1))

/-- **So many calls are enough** for a template, when no expansion is open. -/
def RenderSettings.callsFor (settings : RenderSettings) (source : Chars)
    (nesting question : Nat) : Nat :=
  match Template.compile source with
  | .ok template =>
    template.document.toNode.callsWithin (settings.roomAbove 0) nesting question + 1
  | .error _ => question

/-! ## Keeping to the faults allowed -/

/-- **What came of a computation keeps to the faults allowed**, and gives only good answers. The
stack is used up only where fewer calls are left than the budget, if the calls are bounded. -/
structure KeepsFrom {α : Type} (store : ChangingStore) (bounded : Prop) (budget : Nat)
    (allowed : Fault → Prop) (good : α → Prop) (left : Option Nat)
    (result : Except Fault α × LiveState) : Prop where
  kept : result.2.rendering.KeptFrom store
  good (a : α) (h : result.1 = .ok a) : good a
  fault (fault : Fault) (h : result.1 = .error fault) :
    allowed fault ∨ fault = .stackUsedUp ∧ ∃ calls, left = some calls ∧ (bounded → calls < budget)

/-- **A computation keeps to the faults allowed**, from every state whose documents the store
gave. -/
def Live.Keeps {α : Type} (store : ChangingStore) (bounded : Prop) (budget : Nat)
    (allowed : Fault → Prop) (good : α → Prop) (live : Live α) : Prop :=
  ∀ left state, state.rendering.KeptFrom store →
    KeepsFrom store bounded budget allowed good left (live left state)

section Keeps

variable {α β : Type} {store : ChangingStore} {bounded : Prop} {budget more : Nat}
  {allowed weaker : Fault → Prop} {good : α → Prop} {good' : β → Prop} {left : Option Nat}

namespace KeepsFrom

theorem ok {a : α} {state : LiveState} (h : good a) (hkept : state.rendering.KeptFrom store) :
    KeepsFrom store bounded budget allowed good left (.ok a, state) where
  kept := hkept
  good _ houtcome := Except.ok.inj houtcome ▸ h
  fault _ houtcome := by cases houtcome

theorem error {fault : Fault} {state : LiveState} (h : allowed fault)
    (hkept : state.rendering.KeptFrom store) :
    KeepsFrom store bounded budget allowed good left (.error fault, state) where
  kept := hkept
  good _ houtcome := by cases houtcome
  fault _ houtcome := .inl (Except.error.inj houtcome ▸ h)

/-- The stack is used up. -/
theorem stackUsedUp {calls : Nat} {state : LiveState} (hleft : left = some calls)
    (hshort : bounded → calls < budget) (hkept : state.rendering.KeptFrom store) :
    KeepsFrom store bounded budget allowed good left (.error .stackUsedUp, state) where
  kept := hkept
  good _ houtcome := by cases houtcome
  fault _ houtcome := .inr ⟨(Except.error.inj houtcome).symm, calls, hleft, hshort⟩

/-- **A question**, when what it does at the moment keeps to the faults allowed. -/
theorem ask {host : LiveHost} {question : Nat → Rendering α} {state : LiveState}
    (hcalls : bounded → ∀ moment, host.calls moment ≤ budget)
    (hkept : state.rendering.KeptFrom store)
    (h : KeepsFrom store bounded budget allowed good left
      ((question state.moment state.rendering).1,
        ⟨state.moment + 1, (question state.moment state.rendering).2⟩)) :
    KeepsFrom store bounded budget allowed good left (Live.ask host question left state) := by
  rcases Live.ask_cases host question left state with hasked | ⟨calls, hleft, hmany, hasked⟩
  · rw [hasked]
    exact h
  · rw [hasked]
    exact .stackUsedUp hleft (fun h => Nat.lt_of_lt_of_le hmany (hcalls h _)) hkept

/-- **A question, and what is done with the answer** of the moment. -/
theorem answer_bind {host : LiveHost} {question : Nat → Except Fault α} {rest : α → Live β}
    {state : LiveState} (hcalls : bounded → ∀ moment, host.calls moment ≤ budget)
    (hkept : state.rendering.KeptFrom store)
    (hok : ∀ a, question state.moment = .ok a →
      KeepsFrom store bounded budget allowed good' left
        (rest a left ⟨state.moment + 1, state.rendering⟩))
    (herror : ∀ fault, question state.moment = .error fault → allowed fault) :
    KeepsFrom store bounded budget allowed good' left
      ((Live.answer host question >>= rest) left state) := by
  rcases Live.answer_cases host question left state with
    hasked | ⟨calls, hleft, hmany, hasked⟩
  · cases hanswer : question state.moment with
    | ok a =>
      rw [Live.bind_of_ok (hasked.trans (congrArg (·, _) hanswer))]
      exact hok a hanswer
    | error fault =>
      rw [Live.bind_of_error (hasked.trans (congrArg (·, _) hanswer))]
      exact .error (herror fault hanswer) hkept
  · rw [Live.bind_of_error hasked]
    exact .stackUsedUp hleft (fun h => Nat.lt_of_lt_of_le hmany (hcalls h _)) hkept

end KeepsFrom

namespace Live.Keeps

theorem pure {a : α} (h : good a) : Keeps store bounded budget allowed good (Pure.pure a) :=
  fun _ _ hkept => .ok h hkept

theorem fail {fault : Fault} (h : allowed fault) :
    Keeps store bounded budget allowed good (Live.fail fault) :=
  fun _ _ hkept => .error h hkept

/-- One computation, and then another. -/
theorem bind {first : Live α} {second : α → Live β}
    (hfirst : Keeps store bounded budget allowed good first)
    (hsecond : ∀ a, good a → Keeps store bounded budget allowed good' (second a)) :
    Keeps store bounded budget allowed good' (first >>= second) := by
  intro left state hkept
  have hrun := hfirst left state hkept
  cases hresult : first left state with
  | mk outcome middle =>
    rw [hresult] at hrun
    cases outcome with
    | ok a =>
      rw [bind_of_ok hresult]
      exact hsecond a (hrun.good a rfl) left middle hrun.kept
    | error fault =>
      rw [bind_of_error hresult]
      refine ⟨hrun.kept, fun _ h => ?_, fun other h => hrun.fault other ?_⟩
      · cases h
      · cases h
        rfl

/-- What is allowed, is allowed with more. -/
theorem imp {live : Live α} (h : Keeps store bounded budget allowed good live)
    (himp : ∀ fault, allowed fault → weaker fault) :
    Keeps store bounded budget weaker good live := by
  intro left state hkept
  have hrun := h left state hkept
  exact ⟨hrun.kept, hrun.good, fun fault hfault => (hrun.fault fault hfault).imp_left (himp fault)⟩

/-- With more calls for a budget. -/
theorem mono {live : Live α} (h : Keeps store bounded budget allowed good live)
    (hle : bounded → budget ≤ more) : Keeps store bounded more allowed good live := by
  intro left state hkept
  have hrun := h left state hkept
  refine ⟨hrun.kept, hrun.good, fun fault hfault => (hrun.fault fault hfault).imp_right ?_⟩
  rintro ⟨hused, calls, hleft, hshort⟩
  exact ⟨hused, calls, hleft, fun hbounded => Nat.lt_of_lt_of_le (hshort hbounded) (hle hbounded)⟩

/-- With one call more for a budget, a call. -/
theorem call {body : Live α} (h : Keeps store bounded budget allowed good body) :
    Keeps store bounded (budget + 1) allowed good (Live.call body) := by
  intro left state hkept
  match left with
  | none =>
    have hrun := h none state hkept
    refine ⟨hrun.kept, hrun.good, fun fault hfault => (hrun.fault fault hfault).imp_right ?_⟩
    rintro ⟨-, calls, hleft, -⟩
    cases hleft
  | some 0 => exact .stackUsedUp rfl (fun _ => Nat.succ_pos budget) hkept
  | some (left + 1) =>
    have hrun := h (some left) state hkept
    refine ⟨hrun.kept, hrun.good, fun fault hfault => (hrun.fault fault hfault).imp_right ?_⟩
    rintro ⟨hused, calls, hleft, hshort⟩
    cases hleft
    exact ⟨hused, left + 1, rfl, fun hbounded => Nat.succ_lt_succ (hshort hbounded)⟩

/-- An event is noted, and then comes the rest. -/
theorem note_bind {event : RenderEvent} {rest : Unit → Live α}
    (h : Keeps store bounded budget allowed good (rest ())) :
    Keeps store bounded budget allowed good
      (ofRendering (Rendering.note event) >>= rest) :=
  fun left _ hkept => h left _ hkept

/-- Depth is not kept. -/
theorem deeper {body : Live α} (h : Keeps store bounded budget allowed good body) :
    Keeps store bounded budget allowed good (Live.deeper body) := by
  intro left state hkept
  obtain ⟨hafter, hgood, hfault⟩ := h left
    ⟨state.moment, { state.rendering with depth := state.rendering.depth + 1 }⟩ hkept
  exact ⟨hafter, hgood, hfault⟩

theorem opened {body : Live α} (name : Chars) (h : Keeps store bounded budget allowed good body) :
    Keeps store bounded budget allowed good (Live.opened name body) := by
  intro left state hkept
  obtain ⟨hafter, hgood, hfault⟩ := h left
    ⟨state.moment,
      { state.rendering with journal := .opened name :: state.rendering.journal }⟩ hkept
  exact ⟨hafter, hgood, hfault⟩

/-- A question. -/
theorem answer {host : LiveHost} {question : Nat → Except Fault α}
    (hcalls : bounded → ∀ moment, host.calls moment ≤ budget)
    (hok : ∀ moment a, question moment = .ok a → good a)
    (herror : ∀ moment fault, question moment = .error fault → allowed fault) :
    Keeps store bounded budget allowed good (Live.answer host question) := by
  intro left state hkept
  exact .ask hcalls hkept ⟨hkept, fun a => hok _ a, fun fault h => .inl (herror _ fault h)⟩

end Live.Keeps

end Keeps

/-! ## Names and values -/

section Names

variable {settings : RenderSettings} {store : ChangingStore} {host : LiveHost} {data : Data}
  {bounded : Prop} {budget : Nat} (hcalls : bounded → ∀ moment, host.calls moment ≤ budget)

include hcalls

namespace Live

theorem keeps_member? (name : Chars) {value : Value} (h : host.Meets data value) :
    Keeps store bounded budget (MemberFault host data)
      (fun found => ∀ member ∈ found, host.Meets data member) (member? host name value) := by
  intro left state hkept
  refine .answer_bind hcalls hkept (fun held hheld => ?_) fun fault hfault =>
    .met h (Value.mayFail_of_has hfault)
  cases held with
  | false => exact .ok (fun member hmember => by cases hmember) hkept
  | true =>
    refine .answer_bind hcalls hkept (fun member hmember => ?_) fun fault hfault => ?_
    · refine .ok (fun other hother => ?_) hkept
      cases hother
      exact .member h hmember
    · rcases Value.noMember_or_mayFail_of_lookup hfault with rfl | hfails
      · exact .gone h hheld hfault
      · exact .met h hfails

theorem keeps_findMember (name : Chars) {frames : List Value}
    (h : ∀ frame ∈ frames, host.Meets data frame) :
    Keeps store bounded budget (MemberFault host data)
      (fun found => ∀ member ∈ found, host.Meets data member) (findMember host name frames) := by
  induction frames with
  | nil => exact .pure fun member hmember => by cases hmember
  | cons frame rest ih =>
    rw [findMember]
    refine .bind (keeps_member? hcalls name (h frame List.mem_cons_self)) fun found hfound => ?_
    cases found with
    | none => exact ih fun other hmem => h other (List.mem_cons_of_mem _ hmem)
    | some value => exact .pure hfound

/-- **The fault of resolving a name**: that of a member, or the name is not resolved. -/
def NameFault (host : LiveHost) (data : Data) (fault : Fault) : Prop :=
  MemberFault host data fault ∨ ∃ missing, fault = .unresolved missing

theorem keeps_walk (name : Chars) (segments : List Chars) {value : Value}
    (h : host.Meets data value) :
    Keeps store bounded budget (NameFault host data) (host.Meets data)
      (walk host name segments value) := by
  induction segments generalizing value with
  | nil => exact .pure h
  | cons segment rest ih =>
    rw [walk]
    refine .bind ((keeps_member? hcalls segment h).imp fun _ => .inl) fun found hfound => ?_
    cases found with
    | none => exact .fail (.inr ⟨name, rfl⟩)
    | some member => exact ih (hfound member rfl)

theorem keeps_resolve {scope : Scope} (h : host.MeetsScope data scope) (name : Chars) :
    Keeps store bounded budget (NameFault host data) (host.Meets data)
      (resolve host scope name) := by
  unfold resolve
  split
  · exact .pure (h scope.innermost List.mem_cons_self)
  · cases Chars.split '.' name with
    | nil => exact .fail (.inr ⟨name, rfl⟩)
    | cons first rest =>
      refine .bind ((keeps_findMember hcalls first h).imp fun _ => .inl) fun found hfound => ?_
      cases found with
      | none => exact .fail (.inr ⟨name, rfl⟩)
      | some value => exact keeps_walk hcalls name rest (hfound value rfl)

/-- **The value of a name is met**, or it is absent; a name that is missing fails as the policy
says. -/
theorem keeps_resolveName {scope : Scope} (h : host.MeetsScope data scope) (name : Chars) :
    Keeps store bounded budget (LiveFault settings store host data) (host.Meets data)
      (resolveName host settings scope name) := by
  intro left state hkept
  obtain ⟨hafter, hgood, hfault⟩ := keeps_resolve hcalls h name left state hkept
  unfold resolveName
  split
  next missing after hrun =>
    rw [hrun] at hafter
    by_cases hpolicy : settings.missingVariables = .raise
    · rw [if_pos hpolicy]
      exact .error (.unresolved missing hpolicy) hafter
    · rw [if_neg hpolicy]
      exact .ok .absent hafter
  next result hother =>
    refine ⟨hafter, hgood, fun fault hresult => (hfault fault hresult).imp_left ?_⟩
    rintro (hmember | ⟨missing, rfl⟩)
    · exact .ofMember hmember
    · exact (hother missing _ (Prod.ext hresult rfl)).elim

theorem keeps_printValue (escaped : Bool) {value : Value} (h : host.Meets data value) :
    Keeps store bounded budget (LiveFault settings store host data) (fun _ => True)
      (printValue host settings escaped value) := by
  have htext : Keeps store bounded budget (LiveFault settings store host data) (fun _ => True)
      (answer host fun moment => (host.now moment value).text) :=
    .answer hcalls (fun _ _ _ => trivial) fun _ _ => .text h
  have hsafe : Keeps store bounded budget (LiveFault settings store host data) (fun _ => True)
      (answer host fun moment => host.safe moment value) :=
    .answer hcalls (fun _ _ _ => trivial) fun _ _ => .safe h
  unfold printValue
  refine htext.bind fun text _ => ?_
  cases hescape : settings.escape with
  | none => exact .pure trivial
  | some escape =>
    cases escaped with
    | false => exact .pure trivial
    | true =>
      refine hsafe.bind fun safe _ => ?_
      cases safe with
      | true => exact .pure trivial
      | false => exact .answer hcalls (fun _ _ _ => trivial) fun _ fault => .escape hescape

/-- The items that a block runs over are met. -/
theorem keeps_items {value : Value} (h : host.Meets data value) :
    Keeps store bounded budget (LiveFault settings store host data)
      (fun items => ∀ item ∈ items, host.Meets data item)
      (answer host fun moment => (host.now moment value).items) :=
  .answer hcalls (fun _ _ hitems _ hitem => .item h hitems hitem)
    fun _ _ hfault => .ofMember (.met h (Value.items_mayFail hfault))

theorem keeps_load (name indent : Chars) :
    Keeps store bounded budget (LiveFault settings store host data)
      (fun document? => ∀ document ∈ document?, store.Gives name indent document)
      (ask host fun _ => loadFrom settings store name indent) := by
  intro left state hkept
  obtain ⟨hafter, told, -, hload⟩ := upholds_loadFrom settings store name indent _ hkept
  refine .ask hcalls hkept ⟨hafter, fun document? hresult => ?_, fun fault hresult => .inl ?_⟩
  · rw [show (loadFrom settings store name indent state.rendering).1 = _ from hresult] at hload
    intro document hdocument
    cases hdocument
    cases hload with
    | kept hgives | read hgives => exact hgives
  · rw [show (loadFrom settings store name indent state.rendering).1 = _ from hresult] at hload
    cases hload with
    | failed hfault => exact .ofLoad hfault

end Live

end Names

/-! ## Nodes -/

section Nodes

variable {settings : RenderSettings} {store : ChangingStore} {host : LiveHost} {data : Data}
  {bounded : Prop} {budget : Nat}

namespace Live

/-- Texts one after the other. -/
theorem keeps_append {first others : Live Chars} {allowed : Fault → Prop}
    (hfirst : Keeps store bounded budget allowed (fun _ => True) first)
    (hothers : Keeps store bounded budget allowed (fun _ => True) others) :
    Keeps store bounded budget allowed (fun _ => True)
      (do
        let text ← first
        let more ← others
        return text ++ more) :=
  hfirst.bind fun _ _ => hothers.bind fun _ _ => .pure trivial

theorem keeps_each {body : Value → Live Chars} {allowed : Fault → Prop} {items : List Value}
    (h : ∀ item ∈ items, Keeps store bounded budget allowed (fun _ => True) (body item)) :
    Keeps store bounded budget allowed (fun _ => True) (Walk.each body items) := by
  induction items with
  | nil => exact .pure trivial
  | cons item rest ih =>
    exact keeps_append (h item List.mem_cons_self)
      (ih fun other hmem => h other (List.mem_cons_of_mem _ hmem))

/-- An item that is met is a frame that is met. -/
theorem meets_extend {scope : Scope} (h : host.MeetsScope data scope)
    {item : Value} (hitem : host.Meets data item) : host.MeetsScope data (scope.extend item) :=
  List.forall_mem_cons.mpr ⟨hitem, h⟩

variable {inclusion : Scope → Chars → Chars → Live Chars}

mutual

/-- **A node**, when partial tags keep to the faults allowed. -/
theorem keeps_node (hcalls : bounded → ∀ moment, host.calls moment ≤ budget)
    (h : ∀ {scope : Scope} {name indent : Chars}, host.MeetsScope data scope →
      Keeps store bounded (budget + 1) (LiveFault settings store host data) (fun _ => True)
        (inclusion scope name indent)) :
    ∀ (node : Node) {scope : Scope}, host.MeetsScope data scope →
      Keeps store bounded (node.callDepth + budget) (LiveFault settings store host data)
        (fun _ => True) ((parts host settings inclusion).node node scope)
  | .text _, _, _ => by
    rw [Walk.node]
    exact .pure trivial
  | .interpolation name escaped, scope, hscope => by
    rw [Walk.node, Node.callDepth, Nat.add_comm]
    exact .call ((keeps_resolveName hcalls hscope name).bind fun value hvalue =>
      keeps_printValue hcalls escaped hvalue)
  | .block name inverted children, scope, hscope => by
    have hchildren {scope : Scope} (hscope : host.MeetsScope data scope) :
        Keeps store bounded (Node.callDepthAll children + budget + 1)
          (LiveFault settings store host data) (fun _ => True)
          (call ((parts host settings inclusion).nodes children scope)) :=
      .call (keeps_nodes hcalls h children hscope)
    have hmore : bounded → ∀ moment,
        host.calls moment ≤ Node.callDepthAll children + budget + 1 := by
      intro hbounded moment
      have := hcalls hbounded moment
      omega
    rw [Walk.node, Node.callDepth]
    refine .mono (.call ((keeps_resolveName hmore hscope name).bind fun value hvalue =>
      (keeps_items hmore hvalue).bind fun items hitems => ?_)) fun _ => by omega
    split
    · split
      · exact hchildren hscope
      · exact .pure trivial
    · exact keeps_each fun item hitem => hchildren (meets_extend hscope (hitems item hitem))
  | .inclusion name indent, scope, hscope => by
    rw [Walk.node, Node.callDepth, Nat.add_comm]
    exact h hscope
  | .document children, scope, hscope => by
    rw [Walk.node, Node.callDepth]
    exact .mono (.call (keeps_nodes hcalls h children hscope)) fun _ => by omega

/-- Nodes one after the other. -/
theorem keeps_nodes (hcalls : bounded → ∀ moment, host.calls moment ≤ budget)
    (h : ∀ {scope : Scope} {name indent : Chars}, host.MeetsScope data scope →
      Keeps store bounded (budget + 1) (LiveFault settings store host data) (fun _ => True)
        (inclusion scope name indent)) :
    ∀ (nodes : List Node) {scope : Scope}, host.MeetsScope data scope →
      Keeps store bounded (Node.callDepthAll nodes + budget) (LiveFault settings store host data)
        (fun _ => True) ((parts host settings inclusion).nodes nodes scope)
  | [], _, _ => by
    rw [Walk.nodes]
    exact .pure trivial
  | node :: rest, scope, hscope => by
    rw [Walk.nodes, Node.callDepthAll]
    exact keeps_append (.mono (keeps_node hcalls h node hscope) fun _ => by omega)
      (.mono (keeps_nodes hcalls h rest hscope) fun _ => by omega)

end

/-- **A partial tag**, with any room: a question is asked, and behind it stand the calls for the
document, with less room. -/
theorem keeps_expand {nesting question : Nat} (room : Nat) {scope : Scope}
    {name indent : Chars} (hscope : host.MeetsScope data scope) :
    Keeps store (host.Bounded store nesting question) (question + room * (nesting + 1) + 1)
      (LiveFault settings store host data) (fun _ => True)
      (expand host settings store room scope name indent) := by
  have hcalls (more : Nat) (hbounded : host.Bounded store nesting question) (moment : Nat) :
      host.calls moment ≤ question + more :=
    Nat.le_trans (hbounded.questions moment) (Nat.le_add_right _ _)
  induction room generalizing scope name indent with
  | zero =>
    rw [expand]
    refine .call ((keeps_load (hcalls _) name indent).bind fun document? _ => ?_)
    cases document? with
    | none => exact .pure trivial
    | some document => exact .note_bind (.deeper (.fail (.tooDeep name)))
  | succ room ih =>
    rw [expand]
    refine .call ((keeps_load (hcalls _) name indent).bind fun document? hgives => ?_)
    cases document? with
    | none => exact .pure trivial
    | some document =>
      refine .note_bind (.deeper (.opened name (.mono (.call
        (keeps_nodes (hcalls _) ih document.children hscope)) fun hbounded => ?_)))
      have hnesting : Node.callDepthAll document.children + 1 ≤ nesting :=
        hbounded.documents name indent document (hgives document rfl)
      rw [Nat.succ_mul]
      omega

theorem keeps_render {nesting question : Nat} (node : Node) {scope : Scope}
    (hscope : host.MeetsScope data scope) (left : Option Nat) (state : LiveState)
    (hkept : state.rendering.KeptFrom store) :
    KeepsFrom store (host.Bounded store nesting question)
      (node.callsWithin (settings.roomAbove state.rendering.depth) nesting question + 1)
      (LiveFault settings store host data) (fun _ => True) left
      (render host settings store node scope left state) := by
  have hcalls (hbounded : host.Bounded store nesting question) (moment : Nat) :
      host.calls moment
        ≤ question + settings.roomAbove state.rendering.depth * (nesting + 1) :=
    Nat.le_trans (hbounded.questions moment) (Nat.le_add_right _ _)
  exact Keeps.call (keeps_node hcalls (keeps_expand _) node hscope) left state hkept

/-- **Compiling a template and rendering it** keeps to the faults of a rendering. -/
theorem keeps_renderSource {nesting question : Nat} (source : Chars) (data : Data)
    (left : Option Nat) :
    KeepsFrom store (host.Bounded store nesting question)
      (settings.callsFor source nesting question) (LiveFault settings store host data.orEmpty)
      (fun _ => True) left (renderSource host settings store source data left .fresh) := by
  have hcalls (hbounded : host.Bounded store nesting question) (moment : Nat) :
      host.calls moment ≤ settings.callsFor source nesting question := by
    refine Nat.le_trans (hbounded.questions moment) ?_
    unfold RenderSettings.callsFor
    split
    · unfold Node.callsWithin
      omega
    · exact Nat.le_refl _
  have hfresh := RenderState.keptFrom_fresh store
  refine .answer_bind hcalls hfresh (fun template hcompile => ?_) fun fault hcompile =>
    .unreadable (Template.parse_of_compile_error hcompile)
  refine .answer_bind hcalls hfresh (fun scope hscope => ?_) fun fault hfault => ?_
  · have henough : settings.callsFor source nesting question
        = template.document.toNode.callsWithin (settings.roomAbove 0) nesting question + 1 := by
      rw [RenderSettings.callsFor, hcompile]
    rw [henough]
    exact keeps_render _ (LiveHost.meetsScope_of_toScope hscope) left ⟨2, .fresh⟩ hfresh
  · exact .ofMember (memberFault_of_toScope hfault)

end Live

end Nodes

end Mustache
