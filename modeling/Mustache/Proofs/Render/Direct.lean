import Mustache.Render

/-!
# Rendering without a memory

The **direct** rendering of a node says what is printed without a word about state: no depth is
counted, and no document is kept, so that at every partial tag the store is asked, and the text of
the partial is indented and read anew. What it gives is an `Account`: an outcome, and what is told
of the rendering, in order, up to a fault. The room for expansions of partials is what the limit
allows when none is open.

It is the meaning of a rendering. Rendering itself keeps documents and counts depth; that nobody can
tell is the matter of the module on what is kept.
-/

namespace Mustache

/-- **An account of a rendering**: an answer or a fault, and what is told, in order. -/
@[ext]
structure Account (α : Type) where
  outcome : Except Fault α
  told : List RenderEvent

namespace Account

instance : Monad Account where
  pure a := ⟨.ok a, []⟩
  bind first second :=
    match first.outcome with
    | .ok a => ⟨(second a).outcome, first.told ++ (second a).told⟩
    | .error fault => ⟨.error fault, first.told⟩

/-- Fails. -/
def fail {α : Type} (fault : Fault) : Account α := ⟨.error fault, []⟩

/-- An answer, or its fault, with nothing to tell. -/
def lift {α : Type} (outcome : Except Fault α) : Account α := ⟨outcome, []⟩

/-- Tells of an event. -/
def note (event : RenderEvent) : Account Unit := ⟨.ok (), [event]⟩

/-- The body between the two events that open and close an expansion, however it ends. -/
def opened {α : Type} (name : Chars) (body : Account α) : Account α :=
  ⟨body.outcome, .opened name :: (body.told ++ [.closed])⟩

variable {α β : Type}

theorem bind_of_ok {first : Account α} {a : α} (h : first.outcome = .ok a)
    (second : α → Account β) :
    first >>= second = ⟨(second a).outcome, first.told ++ (second a).told⟩ := by
  simp only [bind, h]

theorem bind_of_error {first : Account α} {fault : Fault} (h : first.outcome = .error fault)
    (second : α → Account β) : first >>= second = ⟨.error fault, first.told⟩ := by
  simp only [bind, h]

/-- The outcome of one account and then another. -/
theorem outcome_bind (first : Account α) (second : α → Account β) :
    (first >>= second).outcome = first.outcome >>= fun a => (second a).outcome := by
  cases h : first.outcome with
  | ok a =>
    rw [bind_of_ok h]
    rfl
  | error fault =>
    rw [bind_of_error h]
    rfl

theorem map_id_eq (account : Account α) : id <$> account = account := by
  obtain ⟨outcome, told⟩ := account
  cases outcome with
  | ok a => exact Account.ext rfl (List.append_nil told)
  | error fault => rfl

theorem bind_bind_eq {γ : Type} (first : Account α) (second : α → Account β)
    (third : β → Account γ) :
    first >>= second >>= third = first >>= fun a => second a >>= third := by
  cases hfirst : first.outcome with
  | error fault => rw [bind_of_error hfirst, bind_of_error hfirst, bind_of_error rfl]
  | ok a =>
    rw [bind_of_ok hfirst, bind_of_ok hfirst]
    cases hsecond : (second a).outcome with
    | error fault => rw [bind_of_error rfl, bind_of_error hsecond]
    | ok b => rw [bind_of_ok rfl, bind_of_ok hsecond, List.append_assoc]

instance : LawfulMonad Account :=
  LawfulMonad.mk' Account map_id_eq (fun _ _ => rfl) bind_bind_eq

end Account

namespace Direct

open Account

/-! ## The parts of a rendering -/

/-- **The value of a name**; a name that is missing is absent, or a fault, as the policy says. -/
def resolveName (settings : RenderSettings) (scope : Scope) (name : Chars) : Account Value :=
  match scope.resolve name with
  | .ok value => pure value
  | .error (.unresolved missing) =>
    if settings.missingVariables = .raise then fail (.unresolved missing)
    else do
      note (.missingName name)
      return .absent
  | .error fault => fail fault

/-- What a partial tag means: by scope, name and indentation. -/
abbrev Expansion := Scope → Chars → Chars → Account Chars

/-- The texts printed for each item, one after the other. -/
def renderEach (body : Value → Account Chars) : List Value → Account Chars
  | [] => pure []
  | item :: rest => do
    let first ← body item
    let others ← renderEach body rest
    return first ++ others

mutual

/-- **The text printed for a node.** -/
def renderNode (settings : RenderSettings) (expansion : Expansion) :
    Node → Scope → Account Chars
  | .text text, _ => pure text
  | .interpolation name escaped, scope => do
    let value ← resolveName settings scope name
    lift (printValue settings escaped value)
  | .block name inverted children, scope => do
    let value ← resolveName settings scope name
    let items ← lift value.items
    if inverted then
      if items.isEmpty then renderNodes settings expansion children scope else pure []
    else
      renderEach (fun item => renderNodes settings expansion children (scope.extend item)) items
  | .inclusion name indent, scope => expansion scope name indent
  | .document children, scope => renderNodes settings expansion children scope

/-- The texts printed for nodes, one after the other. -/
def renderNodes (settings : RenderSettings) (expansion : Expansion) :
    List Node → Scope → Account Chars
  | [], _ => pure []
  | node :: rest, scope => do
    let first ← renderNode settings expansion node scope
    let others ← renderNodes settings expansion rest scope
    return first ++ others

end

/-- **The document of a partial**, read anew; none if the partial is missing and the policy is to
print nothing. -/
def readPartial (settings : RenderSettings) (fetch : Chars → Except Fault Chars)
    (name indent : Chars) : Account (Option Document) := do
  note (.asked name)
  match fetch name with
  | .ok text =>
    let document ← lift (Document.parse (indentText indent text))
    return some document
  | .error (.partialNotFound missing) =>
    if settings.missingPartials = .raise then fail (.partialNotFound missing)
    else do
      note (.missingPartial name)
      return none
  | .error fault => fail fault

/-- **What a partial tag means** with so much room for expansions. -/
def expand (settings : RenderSettings) (fetch : Chars → Except Fault Chars) : Nat → Expansion
  | room, scope, name, indent => do
    match ← readPartial settings fetch name indent with
    | none => return []
    | some document =>
      note (.loaded name)
      match room with
      | 0 => fail (.tooDeep name settings.limit)
      | room + 1 =>
        opened name (renderNodes settings (expand settings fetch room) document.children scope)

/-- **Renders a node directly**, with all the room that the limit allows. -/
def render (settings : RenderSettings) (fetch : Chars → Except Fault Chars) (node : Node)
    (scope : Scope) : Account Chars :=
  renderNode settings (expand settings fetch settings.limit.bound.toNat) node scope

/-! ## Nodes one after the other -/

variable (settings : RenderSettings) (expansion : Expansion)

/-- **Nodes print what their parts print**, one part after the other. -/
theorem renderNodes_append (left right : List Node) (scope : Scope) :
    renderNodes settings expansion (left ++ right) scope = do
      let first ← renderNodes settings expansion left scope
      let others ← renderNodes settings expansion right scope
      return first ++ others := by
  induction left with
  | nil => simp [renderNodes]
  | cons node left ih =>
    rw [List.cons_append, renderNodes, renderNodes, ih]
    simp only [bind_assoc, pure_bind, List.append_assoc]

end Direct

end Mustache
