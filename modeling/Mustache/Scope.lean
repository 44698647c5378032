import Mustache.Value.Member
import Mustache.Value.Text

/-!
# Scopes

Names are resolved in a stack of values, the **frames** of a scope. The frame of a block's current
item is innermost; the data of the whole template is outermost. A dot alone names the innermost
frame. Of any other name the first segment picks the innermost frame that has such a member, and the
segments after it are looked up from there on, in that value only: a segment that is missing later
is not sought further out.
-/

namespace Mustache

/-- **A stack of frames**, never empty, innermost first. -/
structure Scope where
  innermost : Value
  outer : List Value
deriving Inhabited

namespace Scope

/-- The scope of one value, as it is. -/
def ofValue (value : Value) : Scope := ⟨value, []⟩

/-- **The scope of a template's data alone**, if they can be wrapped. -/
def root (data : Value) : Except Fault Scope := data.reflect.map ofValue

/-- All frames, innermost first. -/
def frames (scope : Scope) : List Value := scope.innermost :: scope.outer

/-- The scope inside, with one more frame. -/
def extend (scope : Scope) (value : Value) : Scope := ⟨value, scope.frames⟩

/-- **The member of the first frame that has it**, if any has. -/
def findMember (name : Chars) : List Value → Except Fault (Option Value)
  | [] => .ok none
  | frame :: rest => do
    match ← frame.member? name with
    | some value => return some value
    | none => findMember name rest

/-- **The segments of a path, looked up one after the other.** The first that is missing leaves the
whole name unresolved. -/
def walk (name : Chars) : List Chars → Value → Except Fault Value
  | [], value => .ok value
  | segment :: rest, value => do
    match ← value.member? segment with
    | some member => walk name rest member
    | none => throw (.unresolved name)

/-- **The value of a name.** -/
def resolve (scope : Scope) (name : Chars) : Except Fault Value :=
  if name = ['.'] then .ok scope.innermost
  else
    match Chars.split '.' name with
    | [] => .error (.unresolved name)
    | first :: rest => do
      match ← findMember first scope.frames with
      | some value => walk name rest value
      | none => throw (.unresolved name)

/-- The quoted form of a scope: its frames, innermost first. -/
def quoted (scope : Scope) : Except Fault Chars := do
  let frames ← (Value.list (scope.frames.map .reflected)).quoted
  return "Context(".toList ++ frames ++ [')']

end Scope

end Mustache
