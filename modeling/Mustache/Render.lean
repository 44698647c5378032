import Mustache.Escape
import Mustache.Indent
import Mustache.Node.Parser
import Mustache.Scope

/-!
# Rendering

Rendering walks a tree of nodes within a scope and gives the text it prints, or the first fault.
The walk over the tree (`renderNodes`) does not know what a partial is: it is handed the meaning of
a partial tag. That meaning (`expand`) reads the partial and walks its tree, in which a partial tag
has the meaning of one level less. The number of levels left, the **room**, is what bounds the
nesting of partials, so rendering ends for every store, also for one whose partials include
themselves.

What outlives the rendering of one node is kept in `RenderState`: how many expansions are open, the
documents of the partials read so far, by name and indentation, and a journal of what happened. It
is kept after a fault too.
-/

namespace Mustache

/-- **What to do about a name or a partial that is missing**: print nothing, or fail. -/
inductive Policy where
  | empty
  | raise
deriving DecidableEq, Repr, Inhabited

namespace Policy

/-- The name of a policy. -/
def name : Policy → Chars
  | .empty => "empty".toList
  | .raise => "raise".toList

end Policy

/-- **How to render**: the two policies, what escapes the values printed, if anything does, and how
many expansions of partials may be open at once. -/
structure RenderSettings where
  missingVariables : Policy
  missingPartials : Policy
  escape : Option (Chars → Except Fault Chars)
  limit : DepthLimit

/-- **What may be told of a rendering.** -/
inductive RenderEvent where
  /-- The store was asked for a partial. -/
  | asked (name : Chars)
  /-- A name was not found and prints nothing. -/
  | missingName (name : Chars)
  /-- A partial was not found and prints nothing. -/
  | missingPartial (name : Chars)
  /-- The document of a partial is at hand, to be expanded. -/
  | loaded (name : Chars)
  /-- An expansion of a partial was opened. -/
  | opened (name : Chars)
  /-- The innermost open expansion was closed. -/
  | closed
deriving DecidableEq, Repr, Inhabited

/-- A partial as it is kept once read: its name, and the indentation of its tag. -/
abbrev PartialKey := Chars × Chars

/-- **What outlives the rendering of a node**: the number of open expansions, the partials read so
far, and the journal, latest event first. -/
structure RenderState where
  depth : Nat
  cache : List (PartialKey × Document)
  journal : List RenderEvent
deriving Inhabited

/-- Nothing was rendered yet. -/
def RenderState.fresh : RenderState := ⟨0, [], []⟩

/-- **A computation that renders**: from a state to an answer or a fault, and the state after. -/
def Rendering (α : Type) : Type := RenderState → Except Fault α × RenderState

namespace Rendering

instance : Monad Rendering where
  pure a := fun state => (.ok a, state)
  bind first second := fun state =>
    match first state with
    | (.ok a, state') => second a state'
    | (.error fault, state') => (.error fault, state')

/-- Fails. -/
def fail {α : Type} (fault : Fault) : Rendering α := fun state => (.error fault, state)

/-- An answer, or its fault, that does not hang on the state. -/
def lift {α : Type} (outcome : Except Fault α) : Rendering α := fun state => (outcome, state)

/-- Writes an event into the journal. -/
def note (event : RenderEvent) : Rendering Unit := fun state =>
  (.ok (), { state with journal := event :: state.journal })

/-- The document kept for a partial. -/
def kept? (key : PartialKey) : Rendering (Option Document) := fun state =>
  (.ok (state.cache.lookup key), state)

/-- Keeps the document of a partial. -/
def remember (key : PartialKey) (document : Document) : Rendering Unit := fun state =>
  (.ok (), { state with cache := (key, document) :: state.cache })

/-- **One expansion deeper**, for as long as the body runs, however it ends. -/
def deeper {α : Type} (body : Rendering α) : Rendering α := fun state =>
  let (outcome, after) := body { state with depth := state.depth + 1 }
  (outcome, { after with depth := after.depth - 1 })

/-- The body between the two events that open and close an expansion, however it ends. -/
def opened {α : Type} (name : Chars) (body : Rendering α) : Rendering α := fun state =>
  let (outcome, after) := body { state with journal := .opened name :: state.journal }
  (outcome, { after with journal := .closed :: after.journal })

end Rendering

open Rendering

/-! ## Names and values -/

/-- **The value of a name**; a name that is missing is absent, or a fault, as the policy says. -/
def resolveName (settings : RenderSettings) (scope : Scope) (name : Chars) : Rendering Value :=
  match scope.resolve name with
  | .ok value => pure value
  | .error (.unresolved missing) =>
    if settings.missingVariables = .raise then fail (.unresolved missing)
    else do
      note (.missingName name)
      return .absent
  | .error fault => fail fault

/-- **The text printed for a value**: escaped, if the tag asks for it, an escaper is set, and the
text is not safe already. -/
def printValue (settings : RenderSettings) (escaped : Bool) (value : Value) :
    Except Fault Chars := do
  let text ← value.text
  match settings.escape with
  | some escape => if escaped && !value.isSafe then escape text else return text
  | none => return text

/-! ## The walk over a tree -/

/-- What a partial tag means: by scope, name and indentation. -/
abbrev Expansion := Scope → Chars → Chars → Rendering Chars

/-- The texts printed for each item, one after the other. -/
def renderEach (body : Value → Rendering Chars) : List Value → Rendering Chars
  | [] => pure []
  | item :: rest => do
    let first ← body item
    let others ← renderEach body rest
    return first ++ others

mutual

/-- **The text printed for a node.** -/
def renderNode (settings : RenderSettings) (expansion : Expansion) :
    Node → Scope → Rendering Chars
  | .text text, _ => pure text
  | .interpolation name escaped, scope => do
    let value ← resolveName settings scope name
    lift (printValue settings escaped value)
  | .block name inverted children, scope => do
    let value ← resolveName settings scope name
    let items ← lift value.items
    if inverted then
      if items.isEmpty then renderNodes settings expansion children scope else pure []
    else
      renderEach (fun item => renderNodes settings expansion children (scope.extend item)) items
  | .inclusion name indent, scope => expansion scope name indent
  | .document children, scope => renderNodes settings expansion children scope

/-- The texts printed for nodes, one after the other. -/
def renderNodes (settings : RenderSettings) (expansion : Expansion) :
    List Node → Scope → Rendering Chars
  | [], _ => pure []
  | node :: rest, scope => do
    let first ← renderNode settings expansion node scope
    let others ← renderNodes settings expansion rest scope
    return first ++ others

end

/-! ## Partials -/

/-- **The document of a partial that is not kept**: read now, and kept from then on; none if the
partial is missing and the policy is to print nothing. -/
def readPartial (settings : RenderSettings) (fetch : Chars → Except Fault Chars)
    (name indent : Chars) : Rendering (Option Document) := do
  note (.asked name)
  match fetch name with
  | .ok text =>
    let document ← lift (Document.parse (indentText indent text))
    remember (name, indent) document
    return some document
  | .error (.partialNotFound missing) =>
    if settings.missingPartials = .raise then fail (.partialNotFound missing)
    else do
      note (.missingPartial name)
      return none
  | .error fault => fail fault

/-- **The document of a partial**, kept from before or read now. -/
def loadPartial (settings : RenderSettings) (fetch : Chars → Except Fault Chars)
    (name indent : Chars) : Rendering (Option Document) := do
  match ← kept? (name, indent) with
  | some document => return some document
  | none => readPartial settings fetch name indent

/-- **What a partial tag means** with so much room for expansions: the partial is read, and its
document is rendered in place with one level of room less. Without room that is a fault. -/
def expand (settings : RenderSettings) (fetch : Chars → Except Fault Chars) : Nat → Expansion
  | room, scope, name, indent => do
    match ← loadPartial settings fetch name indent with
    | none => return []
    | some document =>
      note (.loaded name)
      deeper <|
        match room with
        | 0 => fail (.tooDeep name settings.limit)
        | room + 1 =>
          opened name (renderNodes settings (expand settings fetch room) document.children scope)

/-! ## A whole rendering -/

/-- **Renders a node**, with the room that the limit leaves above the expansions already open. -/
def render (settings : RenderSettings) (fetch : Chars → Except Fault Chars) (node : Node)
    (scope : Scope) : Rendering Chars := fun state =>
  let room := (settings.limit.bound - state.depth).toNat
  renderNode settings (expand settings fetch room) node scope state

/-- **The deepest nesting of partials** that a stack of this many frames leaves room for: two
hundred frames stay free, every level takes six, and one level always fits. -/
def partialDepthCeiling (frames : Int) : Int := max 1 ((frames - 200) / 6)

/-- The frames of the stack that partials are rendered on. -/
def stackFrames : Int := 1000

/-- **The limit in effect**: the one asked for, but no more than the stack leaves room for. -/
def effectiveLimit (asked : Int) : Int := min asked (partialDepthCeiling stackFrames)

end Mustache
