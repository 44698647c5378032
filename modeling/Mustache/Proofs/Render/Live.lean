import Mustache.Proofs.Render.Changing
import Mustache.Proofs.Render.Walk

/-!
# Rendering for a host that lives on

Rendering takes the data as they are, and calls as deep as it likes. Neither need be so. What the
host made may answer the next question in another way: whether a value has a member is one question,
and what the member is comes later. And whatever is called stands on a **stack**, which may have an
end.

Here is rendering with both. The questions asked are counted, and their number is the **moment**. A
`LiveHost` says what each value is at each moment, so that whatever the data do in the course of a
rendering, some host does; and it says how many calls its answers take. A computation (`Live`) is
told how many calls are left on the stack. Rendering a node takes a call, and so does rendering the
children of one (`Walk.call`). Where no call is left, the computation fails with `stackUsedUp`.

**The law** (`Live.renderSource_steady`): for a host that never changes this is rendering, unless
the stack is used up; and a stack without end never is.
-/

namespace Mustache

open Rendering

/-- **A host that lives on** while it is asked: what a value is at a moment, whether the text of a
value is safe then, and how many calls the question of a moment takes, whoever answers it. -/
structure LiveHost where
  now : Nat → Value → Value
  safe : Nat → Value → Except Fault Bool
  calls : Nat → Nat

/-- The host that never changes. -/
def LiveHost.steady (calls : Nat → Nat) : LiveHost where
  now _ value := value
  safe _ value := .ok value.isSafe
  calls := calls

/-- The scope that the data make at a moment, if they can be wrapped. -/
def LiveHost.toScope (host : LiveHost) (moment : Nat) : Data → Except Fault Scope
  | .value value => Scope.root (host.now moment value)
  | .scope scope => .ok scope

/-- **What outlives a computation**: the moment, and what outlives a rendering. -/
structure LiveState where
  moment : Nat
  rendering : RenderState

/-- Nothing was asked yet, and nothing rendered. -/
def LiveState.fresh : LiveState := ⟨0, .fresh⟩

/-- **A computation on a stack**: from the number of calls that are left, if there is an end to
them, and a state, to an answer or a fault, and the state after. -/
def Live (α : Type) : Type := Option Nat → LiveState → Except Fault α × LiveState

namespace Live

instance : Monad Live where
  pure a := fun _ state => (.ok a, state)
  bind first second := fun left state =>
    match first left state with
    | (.ok a, state') => second a left state'
    | (.error fault, state') => (.error fault, state')

variable {α : Type}

/-- Fails. -/
def fail (fault : Fault) : Live α := fun _ state => (.error fault, state)

/-- A rendering that asks nobody. -/
def ofRendering (rendering : Rendering α) : Live α := fun _ state =>
  let (outcome, after) := rendering state.rendering
  (outcome, ⟨state.moment, after⟩)

/-- **A call**: one less is left, for as long as the body runs. -/
def call (body : Live α) : Live α := fun left state =>
  match left with
  | none => body none state
  | some 0 => (.error .stackUsedUp, state)
  | some (left + 1) => body (some left) state

/-- **A question**, answered by the moment, if as many calls are left as it takes. -/
def ask (host : LiveHost) (question : Nat → Rendering α) : Live α := fun left state =>
  if left.all (host.calls state.moment ≤ ·) then
    let (outcome, after) := question state.moment state.rendering
    (outcome, ⟨state.moment + 1, after⟩)
  else (.error .stackUsedUp, ⟨state.moment + 1, state.rendering⟩)

/-- A question whose answer does not hang on what was rendered. -/
def answer (host : LiveHost) (question : Nat → Except Fault α) : Live α :=
  ask host fun moment => lift (question moment)

theorem bind_of_ok {β : Type} {first : Live α} {second : α → Live β} {left : Option Nat}
    {state middle : LiveState} {a : α} (h : first left state = (.ok a, middle)) :
    (first >>= second) left state = second a left middle := by
  simp only [bind, h]

theorem bind_of_error {β : Type} {first : Live α} {second : α → Live β} {left : Option Nat}
    {state middle : LiveState} {fault : Fault} (h : first left state = (.error fault, middle)) :
    (first >>= second) left state = (.error fault, middle) := by
  simp only [bind, h]

/-- A question is answered, or fewer calls are left than it takes. -/
theorem ask_cases (host : LiveHost) (question : Nat → Rendering α) (left : Option Nat)
    (state : LiveState) :
    ask host question left state
        = ((question state.moment state.rendering).1,
          ⟨state.moment + 1, (question state.moment state.rendering).2⟩)
      ∨ ∃ calls, left = some calls ∧ calls < host.calls state.moment
        ∧ ask host question left state
          = (.error .stackUsedUp, ⟨state.moment + 1, state.rendering⟩) := by
  cases left with
  | none => exact .inl rfl
  | some calls =>
    by_cases hfits : host.calls state.moment ≤ calls
    · exact .inl (if_pos (decide_eq_true hfits))
    · refine .inr ⟨calls, rfl, Nat.lt_of_not_le hfits, if_neg fun h => hfits ?_⟩
      exact of_decide_eq_true h

theorem answer_cases (host : LiveHost) (question : Nat → Except Fault α) (left : Option Nat)
    (state : LiveState) :
    answer host question left state
        = (question state.moment, ⟨state.moment + 1, state.rendering⟩)
      ∨ ∃ calls, left = some calls ∧ calls < host.calls state.moment
        ∧ answer host question left state
          = (.error .stackUsedUp, ⟨state.moment + 1, state.rendering⟩) :=
  ask_cases host (fun moment => lift (question moment)) left state

/-- One expansion deeper, for as long as the body runs, however it ends. -/
def deeper (body : Live α) : Live α := fun left ⟨moment, state⟩ =>
  let (outcome, after) := body left ⟨moment, { state with depth := state.depth + 1 }⟩
  (outcome, ⟨after.moment, { after.rendering with depth := after.rendering.depth - 1 }⟩)

/-- The body between the two events that open and close an expansion, however it ends. -/
def opened (name : Chars) (body : Live α) : Live α := fun left ⟨moment, state⟩ =>
  let (outcome, after) :=
    body left ⟨moment, { state with journal := .opened name :: state.journal }⟩
  (outcome, ⟨after.moment, { after.rendering with journal := .closed :: after.rendering.journal }⟩)

/-! ## Names and values -/

section Names

variable (host : LiveHost)

/-- **The member of a name, if the value says that it has one.** What it is, is asked later. -/
def member? (name : Chars) (value : Value) : Live (Option Value) := do
  if ← answer host fun moment => (host.now moment value).has name then
    let member ← answer host fun moment => (host.now moment value).lookup name
    return some member
  else return none

/-- The member of the first frame that has it, if any has. -/
def findMember (name : Chars) : List Value → Live (Option Value)
  | [] => pure none
  | frame :: rest => do
    match ← member? host name frame with
    | some value => return some value
    | none => findMember name rest

/-- The segments of a path, looked up one after the other. -/
def walk (name : Chars) : List Chars → Value → Live Value
  | [], value => pure value
  | segment :: rest, value => do
    match ← member? host segment value with
    | some member => walk name rest member
    | none => fail (.unresolved name)

/-- **The value of a name.** -/
def resolve (scope : Scope) (name : Chars) : Live Value :=
  if name = ['.'] then pure scope.innermost
  else
    match Chars.split '.' name with
    | [] => fail (.unresolved name)
    | first :: rest => do
      match ← findMember host first scope.frames with
      | some value => walk host name rest value
      | none => fail (.unresolved name)

variable (settings : RenderSettings)

/-- **The value of a name**; a name that is missing is absent, or a fault, as the policy says. -/
def resolveName (scope : Scope) (name : Chars) : Live Value := fun left state =>
  match resolve host scope name left state with
  | (.error (.unresolved missing), after) =>
    if settings.missingVariables = .raise then (.error (.unresolved missing), after)
    else
      ofRendering (do
        note (.missingName name)
        return .absent) left after
  | result => result

/-- **The text printed for a value.** Whether it is safe is asked only where it would be escaped. -/
def printValue (escaped : Bool) (value : Value) : Live Chars := do
  let text ← answer host fun moment => (host.now moment value).text
  match settings.escape with
  | some escape =>
    if escaped then
      if ← answer host fun moment => host.safe moment value then return text
      else answer host fun _ => escape text
    else return text
  | none => return text

end Names

/-! ## Partials -/

section Partials

variable (host : LiveHost) (settings : RenderSettings)

/-- What rendering walks with. -/
def parts (inclusion : Scope → Chars → Chars → Live Chars) : Walk Live where
  resolve := resolveName host settings
  items value := answer host fun moment => (host.now moment value).items
  print := printValue host settings
  inclusion := inclusion
  call := call

variable (store : ChangingStore)

/-- **What a partial tag means** with so much room for expansions. Loading the partial is one
question. -/
def expand : Nat → Scope → Chars → Chars → Live Chars
  | room, scope, name, indent => call do
    match ← ask host fun _ => loadFrom settings store name indent with
    | none => return []
    | some document =>
      ofRendering (note (.loaded name))
      deeper <|
        match room with
        | 0 => fail (.tooDeep name settings.limit)
        | room + 1 =>
          opened name (call ((parts host settings (expand room)).nodes document.children scope))

/-- **Renders a node**, with the room that the limit leaves above the expansions already open. -/
def render (node : Node) (scope : Scope) : Live Chars := fun left state =>
  let room := settings.roomAbove state.rendering.depth
  call ((parts host settings (expand host settings store room)).node node scope) left state

/-- **Compiles a template and renders it with data.** -/
def renderSource (source : Chars) (data : Data) : Live Chars := do
  let template ← answer host fun _ => Template.compile source
  let scope ← answer host fun moment => host.toScope moment data.orEmpty
  render host settings store template.document.toNode scope

end Partials

/-! ## The host that never changes -/

/-- **A computation does what a rendering does**, unless the stack has an end and is used up. -/
def Does (live : Live α) (rendering : Rendering α) : Prop :=
  ∀ left moment state,
    (∃ after, live left ⟨moment, state⟩ = ((rendering state).1, ⟨after, (rendering state).2⟩))
      ∨ ∃ calls, left = some calls ∧ (live left ⟨moment, state⟩).1 = .error .stackUsedUp

namespace Does

variable {β : Type}

theorem pure (a : α) : Does (Pure.pure a) (Pure.pure a) := fun _ moment _ => .inl ⟨moment, rfl⟩

theorem fail (fault : Fault) : Does (Live.fail fault : Live α) (Rendering.fail fault) :=
  fun _ moment _ => .inl ⟨moment, rfl⟩

theorem bind {first : Live α} {first' : Rendering α} {second : α → Live β}
    {second' : α → Rendering β} (hfirst : Does first first')
    (hsecond : ∀ a, Does (second a) (second' a)) :
    Does (first >>= second) (first' >>= second') := by
  intro left moment state
  rcases hfirst left moment state with ⟨middle, hmiddle⟩ | ⟨calls, hleft, hused⟩
  · cases hrun : first' state with
    | mk outcome between =>
      rw [hrun] at hmiddle
      simp only [Bind.bind, hmiddle, hrun]
      cases outcome with
      | ok a => exact hsecond a left middle between
      | error fault => exact .inl ⟨middle, rfl⟩
  · refine .inr ⟨calls, hleft, ?_⟩
    rw [bind_of_error (Prod.ext hused rfl)]

theorem ofRendering (rendering : Rendering α) : Does (Live.ofRendering rendering) rendering :=
  fun _ moment _ => .inl ⟨moment, rfl⟩

theorem ask {host : LiveHost} {question : Nat → Rendering α} {rendering : Rendering α}
    (h : ∀ moment, question moment = rendering) : Does (Live.ask host question) rendering := by
  intro left moment state
  rcases ask_cases host question left ⟨moment, state⟩ with hasked | ⟨calls, hleft, -, hasked⟩
  · rw [hasked, h]
    exact .inl ⟨moment + 1, rfl⟩
  · rw [hasked]
    exact .inr ⟨calls, hleft, rfl⟩

theorem answer {host : LiveHost} {question : Nat → Except Fault α} {outcome : Except Fault α}
    (h : ∀ moment, question moment = outcome) :
    Does (Live.answer host question) (lift outcome) :=
  ask fun moment => congrArg lift (h moment)

theorem call {live : Live α} {rendering : Rendering α} (h : Does live rendering) :
    Does (Live.call live) rendering := by
  intro left moment state
  match left with
  | none => exact h none moment state
  | some 0 => exact .inr ⟨0, rfl, rfl⟩
  | some (left + 1) =>
    refine (h (some left) moment state).imp_right ?_
    rintro ⟨-, -, hused⟩
    exact ⟨left + 1, rfl, hused⟩

theorem deeper {live : Live α} {rendering : Rendering α} (h : Does live rendering) :
    Does (Live.deeper live) (Rendering.deeper rendering) := by
  intro left moment state
  refine (h left moment { state with depth := state.depth + 1 }).imp_left ?_
  rintro ⟨after, hafter⟩
  exact ⟨after, by simp only [Live.deeper, Rendering.deeper, hafter]⟩

theorem opened {live : Live α} {rendering : Rendering α} (name : Chars)
    (h : Does live rendering) : Does (Live.opened name live) (Rendering.opened name rendering) := by
  intro left moment state
  refine (h left moment { state with journal := .opened name :: state.journal }).imp_left ?_
  rintro ⟨after, hafter⟩
  exact ⟨after, by simp only [Live.opened, Rendering.opened, hafter]⟩

end Does

/-- Doing what a rendering does is kept by giving an answer and by going on from one. -/
def doing : Correspondence Live Rendering where
  Holds := Does
  pure := .pure
  bind := .bind

/-- An outcome, and then what is done with the answer. -/
theorem lift_bind {β : Type} (outcome : Except Fault α) (rest : α → Except Fault β) :
    lift (outcome >>= rest) = lift outcome >>= fun a => lift (rest a) := by
  cases outcome <;> rfl

section Steady

variable {calls : Nat → Nat} (settings : RenderSettings)

theorem does_member? (name : Chars) (value : Value) :
    Does (member? (.steady calls) name value) (lift (value.member? name)) := by
  unfold member? Value.member?
  rw [lift_bind]
  refine .bind (.answer fun _ => rfl) fun held => ?_
  cases held with
  | false => exact .pure none
  | true =>
    show Does (_ >>= _) (lift (value.lookup name >>= _))
    rw [lift_bind]
    exact .bind (.answer fun _ => rfl) fun member => .pure (some member)

theorem does_findMember (name : Chars) (frames : List Value) :
    Does (findMember (.steady calls) name frames) (lift (Scope.findMember name frames)) := by
  induction frames with
  | nil => exact .pure none
  | cons frame rest ih =>
    rw [findMember, Scope.findMember, lift_bind]
    refine .bind (does_member? name frame) fun found => ?_
    cases found with
    | none => exact ih
    | some value => exact .pure (some value)

theorem does_walk (name : Chars) (segments : List Chars) (value : Value) :
    Does (walk (.steady calls) name segments value) (lift (Scope.walk name segments value)) := by
  induction segments generalizing value with
  | nil => exact .pure value
  | cons segment rest ih =>
    rw [walk, Scope.walk, lift_bind]
    refine .bind (does_member? segment value) fun found => ?_
    cases found with
    | none => exact .fail (.unresolved name)
    | some member => exact ih member

theorem does_resolve (scope : Scope) (name : Chars) :
    Does (resolve (.steady calls) scope name) (lift (scope.resolve name)) := by
  unfold resolve Scope.resolve
  split
  · exact .pure scope.innermost
  · cases Chars.split '.' name with
    | nil => exact .fail (.unresolved name)
    | cons first rest =>
      dsimp only
      rw [lift_bind]
      refine .bind (does_findMember first scope.frames) fun found => ?_
      cases found with
      | none => exact .fail (.unresolved name)
      | some value => exact does_walk name rest value

theorem does_resolveName (scope : Scope) (name : Chars) :
    Does (resolveName (.steady calls) settings scope name)
      (Mustache.resolveName settings scope name) := by
  intro left moment state
  unfold resolveName Mustache.resolveName
  rcases does_resolve scope name left moment state with ⟨after, hafter⟩ | ⟨calls, hleft, hused⟩
  · refine .inl ⟨after, ?_⟩
    rw [hafter]
    cases scope.resolve name with
    | ok value => rfl
    | error fault =>
      cases fault with
      | unresolved missing =>
        show (if _ then _ else _) = _
        split <;> rfl
      | _ => rfl
  · refine .inr ⟨calls, hleft, ?_⟩
    split
    next missing after hrun =>
      rw [hrun] at hused
      cases hused
    next => exact hused

theorem does_printValue (escaped : Bool) (value : Value) :
    Does (printValue (.steady calls) settings escaped value)
      (lift (Mustache.printValue settings escaped value)) := by
  unfold printValue Mustache.printValue
  rw [lift_bind]
  refine .bind (.answer fun _ => rfl) fun text => ?_
  cases settings.escape with
  | none => exact .pure text
  | some escape =>
    cases escaped with
    | false => exact .pure text
    | true =>
      have hsafe : Does
          (answer (.steady calls) fun moment => (LiveHost.steady calls).safe moment value)
          (lift (.ok value.isSafe)) := .answer fun _ => rfl
      have hprint : (lift (if true && !value.isSafe then escape text else return text)
          : Rendering Chars)
          = lift (.ok value.isSafe) >>= fun safe =>
            lift (if safe then .ok text else escape text) := by
        cases value.isSafe <;> rfl
      dsimp only
      rw [hprint]
      refine hsafe.bind fun safe => ?_
      cases safe with
      | false => exact .answer fun _ => rfl
      | true => exact .pure text

theorem does_items (value : Value) :
    Does (answer (.steady calls) fun moment => ((LiveHost.steady calls).now moment value).items)
      (lift value.items) := .answer fun _ => rfl

/-- The parts that rendering walks with do the same, if partial tags do. -/
theorem does_parts {inclusion : Scope → Chars → Chars → Live Chars} {expansion : Expansion}
    (h : ∀ scope name indent, Does (inclusion scope name indent) (expansion scope name indent)) :
    Walk.Corresponds doing (parts (.steady calls) settings inclusion)
      (Rendering.walk settings expansion) where
  resolve := does_resolveName settings
  items value := does_items value
  print := does_printValue settings
  inclusion := h
  call := .call

variable (store : ChangingStore)

/-- A partial tag means the same. -/
theorem does_expand (room : Nat) (scope : Scope) (name indent : Chars) :
    Does (expand (.steady calls) settings store room scope name indent)
      (expandFrom settings store room scope name indent) := by
  induction room generalizing scope name indent with
  | zero =>
    rw [expand, expandFrom]
    refine .call (.bind (.ask fun _ => rfl) fun document? => ?_)
    cases document? with
    | none => exact .pure []
    | some document =>
      exact .bind (.ofRendering _) fun _ => .deeper (.fail (.tooDeep name settings.limit))
  | succ room ih =>
    rw [expand, expandFrom]
    refine .call (.bind (.ask fun _ => rfl) fun document? => ?_)
    cases document? with
    | none => exact .pure []
    | some document =>
      refine .bind (.ofRendering _) fun _ => .deeper (.opened name (.call ?_))
      rw [← Rendering.walk_nodes]
      exact Walk.corresponds_nodes (does_parts settings ih) document.children scope

/-- **Rendering a node** is rendering it. -/
theorem does_render (node : Node) (scope : Scope) :
    Does (render (.steady calls) settings store node scope)
      (renderFrom settings store node scope) := by
  intro left moment state
  unfold renderFrom
  rw [← Rendering.walk_node]
  have hparts : Walk.Corresponds doing
      (parts (.steady calls) settings
        (expand (.steady calls) settings store (settings.roomAbove state.depth)))
      (Rendering.walk settings (expandFrom settings store (settings.roomAbove state.depth))) :=
    does_parts settings (does_expand settings store _)
  exact Does.call (Walk.corresponds_node hparts node scope) left moment state

/-- **Compiling a template and rendering it** for a host that never changes is compiling and
rendering it, unless the stack has an end and is used up. -/
theorem renderSource_steady (source : Chars) (data : Data) :
    Does (renderSource (.steady calls) settings store source data)
      (renderDataFrom settings store source data) := by
  unfold renderSource renderDataFrom
  refine .bind (.answer fun _ => rfl) fun template => .bind (.answer fun _ => ?_) fun scope => ?_
  · cases data.orEmpty <;> rfl
  · exact does_render settings store template.document.toNode scope

end Steady

end Live

end Mustache
