import Mustache.Proofs.Render.Changing

/-!
# Rendering ends

Rendering some nodes calls for the rendering of others: of the children of a block, once for each
item, of a document in place, and of the document of a partial. Neither the tree nor the data need
get smaller on the way, since a partial stands for a document of any size, and for another one each
time if the store changes. What gets smaller with each call is a pair: the room that the limit
leaves above the expansions that are open, and then the size of the nodes.

To say so, the calls are taken out. `callNodes` renders nodes when it is handed what answers the
calls for others, which may also give no answer; the room is no argument, and the number of open
expansions is checked against the limit as it stands at each partial. Two answers close the circle:

* `callBelow` answers a call only if its room and size are below an **allowance**, and hands on what
  it was called with as the allowance of the calls inside;
* `callWithin` answers only so many calls one inside the other.

Neither ever lacks an answer, the latter with budget enough (`renderFrom_ends`), and what they
answer is the rendering.
-/

namespace Mustache

/-! ## Attempts -/

/-- **A computation that renders, or gives no answer.** -/
def Attempt (α : Type) : Type := RenderState → Option (Except Fault α × RenderState)

namespace Attempt

instance : Monad Attempt where
  pure a := fun state => some (.ok a, state)
  bind first second := fun state =>
    match first state with
    | some (.ok a, state') => second a state'
    | some (.error fault, state') => some (.error fault, state')
    | none => none

/-- A rendering always answers. -/
def ofRendering {α : Type} (rendering : Rendering α) : Attempt α := fun state =>
  some (rendering state)

/-- One expansion deeper, for as long as the body runs. -/
def deeper {α : Type} (body : Attempt α) : Attempt α := fun state =>
  (body { state with depth := state.depth + 1 }).map fun (outcome, after) =>
    (outcome, { after with depth := after.depth - 1 })

/-- The body between the two events that open and close an expansion. -/
def opened {α : Type} (name : Chars) (body : Attempt α) : Attempt α := fun state =>
  (body { state with journal := .opened name :: state.journal }).map fun (outcome, after) =>
    (outcome, { after with journal := .closed :: after.journal })

/-- Fails if more expansions are open than the limit allows. -/
def checkDepth (settings : RenderSettings) (name : Chars) : Attempt Unit := fun state =>
  if settings.limit.bound < state.depth then some (.error (.tooDeep name settings.limit), state)
  else some (.ok (), state)

end Attempt

open Attempt

/-! ## One call -/

/-- **What answers a call** for the rendering of nodes in a scope. -/
abbrev Calls := List Node → Scope → Attempt Chars

/-- The texts for each item, one after the other. -/
def callEach (body : Value → Attempt Chars) : List Value → Attempt Chars
  | [] => pure []
  | item :: rest => do
    let first ← body item
    let others ← callEach body rest
    return first ++ others

/-- **The text for a node**, when others are called for. -/
def callNode (settings : RenderSettings) (store : ChangingStore) (calls : Calls) (scope : Scope) :
    Node → Attempt Chars
  | .text text => pure text
  | .interpolation name escaped => do
    let value ← ofRendering (resolveName settings scope name)
    ofRendering (.lift (printValue settings escaped value))
  | .block name inverted children => do
    let value ← ofRendering (resolveName settings scope name)
    let items ← ofRendering (.lift value.items)
    if inverted then
      if items.isEmpty then calls children scope else pure []
    else callEach (fun item => calls children (scope.extend item)) items
  | .inclusion name indent => do
    match ← ofRendering (loadFrom settings store name indent) with
    | none => return []
    | some document =>
      ofRendering (.note (.loaded name))
      deeper do
        checkDepth settings name
        opened name (calls document.children scope)
  | .document children => calls children scope

/-- **A call**: the texts for nodes, one after the other, when others are called for. -/
def callNodes (settings : RenderSettings) (store : ChangingStore) (calls : Calls) : Calls
  | [], _ => pure []
  | node :: rest, scope => do
    let first ← callNode settings store calls scope node
    let others ← callNodes settings store calls rest scope
    return first ++ others

/-! ## All calls -/

mutual

/-- **The size of a node**, with all that stands inside; partials are not expanded. -/
def Node.size : Node → Nat
  | .text _ | .interpolation .. | .inclusion .. => 1
  | .block _ _ children | .document children => Node.sizeAll children + 1

/-- The size of nodes. -/
def Node.sizeAll : List Node → Nat
  | [] => 0
  | node :: rest => node.size + Node.sizeAll rest

end

/-- **Answers calls below an allowance**: with less room, or with as much room and for nodes of less
size. What a call has is the allowance of those inside. -/
def callBelow (settings : RenderSettings) (store : ChangingStore) (room size : Nat) : Calls :=
  fun nodes scope state =>
    if _ : settings.roomAbove state.depth < room
        ∨ settings.roomAbove state.depth = room ∧ Node.sizeAll nodes < size then
      callNodes settings store
        (callBelow settings store (settings.roomAbove state.depth) (Node.sizeAll nodes)) nodes scope
        state
    else none
termination_by (room, size)
decreasing_by exact Prod.lex_def.mpr ‹_›

/-- **Answers so many calls one inside the other.** -/
def callWithin (settings : RenderSettings) (store : ChangingStore) : Nat → Calls
  | 0 => fun _ _ _ => none
  | budget + 1 => callNodes settings store (callWithin settings store budget)

/-! ## Names and partials open nothing -/

/-- **A rendering leaves as many expansions open** as it finds. -/
def KeepsDepth {α : Type} (rendering : Rendering α) : Prop :=
  ∀ state, (rendering state).2.depth = state.depth

namespace KeepsDepth

variable (settings : RenderSettings)

theorem bind {α β : Type} {first : Rendering α} {second : α → Rendering β}
    (hfirst : KeepsDepth first) (hsecond : ∀ a, KeepsDepth (second a)) :
    KeepsDepth (first >>= second) := by
  intro state
  have hdepth := hfirst state
  simp only [Bind.bind]
  cases hrun : first state with
  | mk outcome after =>
    rw [hrun] at hdepth
    cases outcome with
    | ok a => exact (hsecond a after).trans hdepth
    | error fault => exact hdepth

theorem resolveName (scope : Scope) (name : Chars) :
    KeepsDepth (resolveName settings scope name) := by
  unfold Mustache.resolveName
  split
  · exact fun _ => rfl
  · split <;> exact fun _ => rfl
  · exact fun _ => rfl

theorem readPartial (fetch : Chars → Except Fault Chars) (name indent : Chars) :
    KeepsDepth (readPartial settings fetch name indent) := by
  unfold Mustache.readPartial
  refine KeepsDepth.bind (fun _ => rfl) fun _ => ?_
  split
  · refine KeepsDepth.bind (fun _ => rfl) fun _ => KeepsDepth.bind (fun _ => rfl) fun _ => ?_
    exact fun _ => rfl
  · split <;> exact fun _ => rfl
  · exact fun _ => rfl

theorem loadFrom (store : ChangingStore) (name indent : Chars) :
    KeepsDepth (loadFrom settings store name indent) := by
  intro state
  unfold Mustache.loadFrom loadPartial
  refine KeepsDepth.bind (fun _ => rfl) (fun kept => ?_) state
  split
  · exact fun _ => rfl
  · exact readPartial settings (store state.journal) name indent

end KeepsDepth

/-! ## Answering as a rendering does -/

/-- **Attempts answer as a rendering does**, from states with so many open expansions, once the
budget is enough; and the rendering leaves as many open. -/
def AnswersAs {α : Type} (depth : Nat) (attempts : Nat → Attempt α) (rendering : Rendering α) :
    Prop :=
  ∀ state, state.depth = depth →
    (∃ enough, ∀ budget, enough ≤ budget → attempts budget state = some (rendering state))
      ∧ (rendering state).2.depth = depth

namespace AnswersAs

variable {α β : Type} {depth : Nat}

theorem ofRendering {rendering : Rendering α} (h : KeepsDepth rendering) :
    AnswersAs depth (fun _ => Attempt.ofRendering rendering) rendering :=
  fun state hstate => ⟨⟨0, fun _ _ => rfl⟩, (h state).trans hstate⟩

theorem pure (a : α) : AnswersAs depth (fun _ => Pure.pure a) (Pure.pure a) :=
  ofRendering fun _ => rfl

theorem lift (outcome : Except Fault α) :
    AnswersAs depth (fun _ => Attempt.ofRendering (.lift outcome)) (.lift outcome) :=
  ofRendering fun _ => rfl

/-- **One after the other**: the greater budget is enough for both. -/
theorem bind {first : Nat → Attempt α} {first' : Rendering α} {second : Nat → α → Attempt β}
    {second' : α → Rendering β} (hfirst : AnswersAs depth first first')
    (hsecond : ∀ a, AnswersAs depth (fun budget => second budget a) (second' a)) :
    AnswersAs depth (fun budget => first budget >>= second budget) (first' >>= second') := by
  intro state hstate
  obtain ⟨⟨enough, hanswers⟩, hdepth⟩ := hfirst state hstate
  simp only [Bind.bind]
  cases hrun : first' state with
  | mk outcome after =>
    rw [hrun] at hanswers hdepth
    cases outcome with
    | error fault =>
      -- what comes second is not attempted
      refine ⟨⟨enough, fun budget hbudget => ?_⟩, hdepth⟩
      rw [hanswers budget hbudget]
    | ok a =>
      obtain ⟨⟨enough', hanswers'⟩, hdepth'⟩ := hsecond a after hdepth
      refine ⟨⟨max enough enough', fun budget hbudget => ?_⟩, hdepth'⟩
      rw [hanswers budget (Nat.le_trans (Nat.le_max_left ..) hbudget)]
      exact hanswers' budget (Nat.le_trans (Nat.le_max_right ..) hbudget)

theorem deeper {body : Nat → Attempt α} {body' : Rendering α}
    (h : AnswersAs (depth + 1) body body') :
    AnswersAs depth (fun budget => (body budget).deeper) body'.deeper := by
  intro state hstate
  obtain ⟨⟨enough, hanswers⟩, hdepth⟩ :=
    h { state with depth := state.depth + 1 } (congrArg (· + 1) hstate)
  refine ⟨⟨enough, fun budget hbudget => ?_⟩, congrArg (· - 1) hdepth⟩
  show Option.map _ (body budget { state with depth := _ }) = _
  rw [hanswers budget hbudget]
  rfl

theorem opened (name : Chars) {body : Nat → Attempt α} {body' : Rendering α}
    (h : AnswersAs depth body body') :
    AnswersAs depth (fun budget => (body budget).opened name) (body'.opened name) := by
  intro state hstate
  obtain ⟨⟨enough, hanswers⟩, hdepth⟩ :=
    h { state with journal := .opened name :: state.journal } hstate
  refine ⟨⟨enough, fun budget hbudget => ?_⟩, hdepth⟩
  show Option.map _ (body budget { state with journal := _ }) = _
  rw [hanswers budget hbudget]
  rfl

/-- A budget of one less is a budget still. -/
theorem of_succ {attempts : Nat → Attempt α} {rendering : Rendering α}
    (h : AnswersAs depth (fun budget => attempts (budget + 1)) rendering) :
    AnswersAs depth attempts rendering := by
  intro state hstate
  obtain ⟨⟨enough, hanswers⟩, hdepth⟩ := h state hstate
  refine ⟨⟨enough + 1, fun budget hbudget => ?_⟩, hdepth⟩
  obtain ⟨less, rfl⟩ : ∃ less, budget = less + 1 := ⟨budget - 1, by omega⟩
  exact hanswers less (Nat.le_of_succ_le_succ hbudget)

theorem callEach {body : Nat → Value → Attempt Chars} {body' : Value → Rendering Chars}
    (h : ∀ item, AnswersAs depth (fun budget => body budget item) (body' item))
    (items : List Value) :
    AnswersAs depth (fun budget => callEach (body budget) items) (renderEach body' items) := by
  induction items with
  | nil => exact .pure []
  | cons item items ih => exact (h item).bind fun _ => ih.bind fun _ => .pure _

end AnswersAs

/-! ## One call answers -/

section Calls

variable {settings : RenderSettings} {store : ChangingStore} {depth : Nat}

/-- **The calls for some nodes are answered**, when so many expansions are open, with their
rendering. -/
def AnswersCall (settings : RenderSettings) (store : ChangingStore) (calls : Nat → Calls)
    (depth : Nat) (nodes : List Node) : Prop :=
  ∀ scope, AnswersAs depth (fun budget => calls budget nodes scope)
    (renderNodes settings (expandFrom settings store (settings.roomAbove depth)) nodes scope)

/-- **The calls made inside a call are answered**: those for nodes of less size, and those with less
room. -/
structure AnswersInside (settings : RenderSettings) (store : ChangingStore) (calls : Nat → Calls)
    (depth size : Nat) : Prop where
  same : ∀ nodes, Node.sizeAll nodes < size → AnswersCall settings store calls depth nodes
  deeper : settings.roomAbove (depth + 1) < settings.roomAbove depth →
    ∀ nodes, AnswersCall settings store calls (depth + 1) nodes

/-- Within the limit, the check lets pass. -/
theorem answersAs_checkDepth (name : Chars) (h : depth ≤ settings.limit.bound) :
    AnswersAs depth (fun _ => checkDepth settings name) (pure ()) := by
  intro state hstate
  refine ⟨⟨0, fun _ _ => ?_⟩, hstate⟩
  exact if_neg (by omega)

/-- Beyond the limit, it fails, and nothing else is done. -/
theorem answersAs_checkDepth_fail (name : Chars) (rest : Nat → Unit → Attempt Chars)
    (h : settings.limit.bound < depth) :
    AnswersAs depth (fun budget => checkDepth settings name >>= rest budget)
      (Rendering.fail (.tooDeep name settings.limit)) := by
  intro state hstate
  refine ⟨⟨0, fun budget _ => ?_⟩, hstate⟩
  have hcheck : checkDepth settings name state
      = some (.error (.tooDeep name settings.limit), state) := if_pos (by omega)
  simp only [Bind.bind, hcheck]
  rfl

/-- The room is used up just when one expansion more is beyond the limit. -/
theorem RenderSettings.roomAbove_cases (settings : RenderSettings) (depth : Nat) :
    settings.roomAbove depth = 0 ∧ settings.limit.bound < (depth + 1 : Nat)
      ∨ settings.roomAbove depth = settings.roomAbove (depth + 1) + 1
        ∧ (depth + 1 : Nat) ≤ settings.limit.bound := by
  unfold RenderSettings.roomAbove
  omega

/-- **A partial tag.** -/
theorem answersAs_inclusion {calls : Nat → Calls} {size : Nat}
    (h : AnswersInside settings store calls depth size) (scope : Scope) (name indent : Chars) :
    AnswersAs depth (fun budget => callNode settings store (calls budget) scope
        (.inclusion name indent))
      (expandFrom settings store (settings.roomAbove depth) scope name indent) := by
  unfold expandFrom
  refine AnswersAs.bind (.ofRendering (.loadFrom settings store name indent)) fun kept => ?_
  cases kept with
  | none => exact .pure []
  | some document =>
    -- the room that was given and the check of the open expansions say the same
    refine AnswersAs.bind (.ofRendering fun _ => rfl) fun _ => AnswersAs.deeper ?_
    obtain ⟨hroom, hbeyond⟩ | ⟨hroom, hwithin⟩ := settings.roomAbove_cases depth
    · rw [hroom]
      exact answersAs_checkDepth_fail name _ hbeyond
    · have hbody := h.deeper (by omega)
      rw [hroom]
      exact (answersAs_checkDepth name hwithin).bind fun _ =>
        (hbody document.children scope).opened name

/-- **A node.** -/
theorem answersAs_callNode {calls : Nat → Calls} {size : Nat}
    (h : AnswersInside settings store calls depth size) {node : Node} (hsize : node.size ≤ size)
    (scope : Scope) :
    AnswersAs depth (fun budget => callNode settings store (calls budget) scope node)
      (renderNode settings (expandFrom settings store (settings.roomAbove depth)) node scope) := by
  cases node with
  | text text =>
    rw [renderNode]
    exact .pure text
  | interpolation name escaped =>
    rw [renderNode]
    exact AnswersAs.bind (.ofRendering (.resolveName settings scope name)) fun value =>
      .lift (printValue settings escaped value)
  | block name inverted children =>
    rw [Node.size] at hsize
    have hchildren := h.same children hsize
    rw [renderNode]
    refine AnswersAs.bind (.ofRendering (.resolveName settings scope name)) fun value => ?_
    refine AnswersAs.bind (.lift value.items) fun items => ?_
    split
    · split
      · exact hchildren scope
      · exact .pure []
    · exact .callEach (fun item => hchildren (scope.extend item)) items
  | inclusion name indent =>
    rw [renderNode]
    exact answersAs_inclusion h scope name indent
  | document children =>
    rw [Node.size] at hsize
    rw [renderNode]
    exact h.same children hsize scope

/-- **A call is answered**, when the calls made inside are. -/
theorem answersCall_callNodes {calls : Nat → Calls} {size : Nat}
    (h : AnswersInside settings store calls depth size) {nodes : List Node}
    (hsize : Node.sizeAll nodes ≤ size) :
    AnswersCall settings store (fun budget => callNodes settings store (calls budget)) depth
      nodes := by
  intro scope
  induction nodes with
  | nil =>
    rw [renderNodes]
    exact .pure []
  | cons node rest ih =>
    rw [Node.sizeAll] at hsize
    rw [renderNodes]
    refine AnswersAs.bind ?_ fun _ => (ih (by omega)).bind fun _ => .pure _
    exact answersAs_callNode h (by omega) scope

end Calls

/-! ## All calls answer -/

section Ends

variable (settings : RenderSettings) (store : ChangingStore)

/-- **Calls below an allowance are answered.** -/
theorem answersCall_callBelow (depth : Nat) (nodes : List Node) {room size : Nat}
    (h : settings.roomAbove depth < room
      ∨ settings.roomAbove depth = room ∧ Node.sizeAll nodes < size) :
    AnswersCall settings store (fun _ => callBelow settings store room size) depth nodes := by
  -- what the call has is the allowance of those inside, and these are below it
  have hinside : AnswersInside settings store
      (fun _ => callBelow settings store (settings.roomAbove depth) (Node.sizeAll nodes)) depth
      (Node.sizeAll nodes) :=
    ⟨fun others hless => answersCall_callBelow depth others (.inr ⟨rfl, hless⟩),
      fun hless others => answersCall_callBelow (depth + 1) others (.inl hless)⟩
  intro scope state hstate
  have hcall := answersCall_callNodes hinside (Nat.le_refl _) scope state hstate
  subst hstate
  show (∃ enough, ∀ budget, enough ≤ budget →
    callBelow settings store room size nodes scope state = _) ∧ _
  rw [callBelow, dif_pos h]
  exact hcall
termination_by (settings.roomAbove depth, Node.sizeAll nodes)

/-- **Calls are answered with budget enough.** -/
theorem answersCall_callWithin (depth : Nat) (nodes : List Node) :
    AnswersCall settings store (callWithin settings store) depth nodes := by
  -- no budget is known beforehand, so that the measure has to carry the recursion here as well
  have hinside : AnswersInside settings store (callWithin settings store) depth
      (Node.sizeAll nodes) :=
    ⟨fun others _ => answersCall_callWithin depth others,
      fun _ others => answersCall_callWithin (depth + 1) others⟩
  exact fun scope => .of_succ (answersCall_callNodes hinside (Nat.le_refl _) scope)
termination_by (settings.roomAbove depth, Node.sizeAll nodes)

end Ends

/-- **Rendering ends, and the calls show why.** Each call for the rendering of nodes has less room
than the one it is made in, or as much room and nodes of less size. So no call is refused for want
of that, and with budget enough no call lacks an answer; either way the answer is the rendering. -/
theorem renderFrom_ends (settings : RenderSettings) (store : ChangingStore) (node : Node)
    (scope : Scope) (state : RenderState) :
    callBelow settings store (settings.roomAbove state.depth) (Node.sizeAll [node] + 1) [node] scope
        state
        = some (renderFrom settings store node scope state)
      ∧ ∃ enough, ∀ budget, enough ≤ budget →
        callWithin settings store budget [node] scope state
          = some (renderFrom settings store node scope state) := by
  have hrendering := renderNodes_singleton settings
    (expandFrom settings store (settings.roomAbove state.depth)) node scope state
  obtain ⟨⟨enough, hbelow⟩, -⟩ := answersCall_callBelow settings store state.depth [node]
    (.inr ⟨rfl, Nat.lt_succ_self _⟩) scope state rfl
  obtain ⟨⟨enough', hwithin⟩, -⟩ :=
    answersCall_callWithin settings store state.depth [node] scope state rfl
  rw [hrendering] at hbelow hwithin
  exact ⟨hbelow enough (Nat.le_refl _), enough', hwithin⟩

end Mustache
