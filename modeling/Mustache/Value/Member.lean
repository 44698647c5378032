import Mustache.Decimal.Binary
import Mustache.Decimal.Integer
import Mustache.Value

/-!
# Members, truth and items

What a template can do with a value: ask whether it has a member of some name, look that member up,
ask whether the value counts as true, and view it as the items a block is rendered for.

The members of a sequence are its items, named by integers from zero up to its length. The members
of a mapping are its string keys; a mapping of the host's own is asked, once whether it holds a name
and once for what it gives. The members of a host object, or of octets, are the attributes, but none
whose name begins with two underscores; reading an attribute may fail, and then the member is absent
or the failure goes on to the caller (`Fault.meansAbsent`). No other value has members. A member is
handed on wrapped (`Value.reflect`), and so is an item. Whoever wants a member asks first whether
the value has it (`Value.member?`).
-/

namespace Mustache

/-- **A name that no template may read**: it begins with two underscores. -/
def isBlockedName : Chars → Bool
  | '_' :: '_' :: _ => true
  | _ => false

/-- A scalar counts as true unless it is nothing, false, zero or empty. -/
def Scalar.isTruthy : Scalar → Bool
  | .null => false
  | .boolean value => value
  | .integer n => n ≠ 0
  | .float x => !(Decimal.Binary.ofFloat x).isZero
  | .string text | .safe text => text ≠ []

namespace Value

/-- **The index that a name denotes** in a sequence of this size. The size is asked for only when
the name is an integer of at least zero. -/
def indexOf? (name : Chars) (size : Except Fault Nat) : Except Fault (Option Nat) :=
  match Decimal.readInt? name with
  | none => .ok none
  | some index =>
    if index < 0 then .ok none
    else size.map fun n => if index < n then some index.toNat else none

/-- The value of a key. -/
def entry? (name : Chars) : List (Value × Value) → Option Value
  | [] => none
  | (key, value) :: rest => if key.string? = some name then some value else entry? name rest

/-- What reading an attribute gives: its value, or a failure. An attribute that is not there fails
as a missing member does. -/
def readAttribute (name : Chars) (attributes : List (Chars × Except Fault Value)) :
    Except Fault Value :=
  match attributes.lookup name with
  | some answer => answer
  | none => .error (.host .attribute [])

/-- **The member of a host object.** -/
def readMember (name : Chars) (attributes : List (Chars × Except Fault Value)) :
    Except Fault Value :=
  if isBlockedName name then .error (.noMember name)
  else
    match readAttribute name attributes >>= reflect with
    | .ok value => .ok value
    | .error fault => if fault.meansAbsent then .error (.noMember name) else .error fault

/-- **The member of a name.** -/
def lookup (name : Chars) : Value → Except Fault Value
  | .list items | .tuple items => do
    match (← indexOf? name (.ok items.length)).bind (items[·]?) with
    | some item => item.reflect
    | none => .error (.noMember name)
  | .range progression => do
    match ← indexOf? name progression.size with
    | some index => .ok (.ofInt (progression.member index))
    | none => .error (.noMember name)
  | .mapping entries =>
    match entry? name entries with
    | some value => value.reflect
    | none => .error (.noMember name)
  | .octets _ attributes | .object _ attributes => readMember name attributes
  | .hostMapping _ _ gives => gives name >>= reflect
  | .reflected value => value.lookup name
  | .scalar _ | .absent => .error (.noMember name)

/-- **The value has a member of this name.** A host object is asked by looking the member up. -/
def has (name : Chars) : Value → Except Fault Bool
  | .list items | .tuple items => (indexOf? name (.ok items.length)).map (·.isSome)
  | .range progression => (indexOf? name progression.size).map (·.isSome)
  | .mapping entries => .ok (entries.any fun entry => entry.1.string? = some name)
  | .octets _ attributes | .object _ attributes =>
    match readMember name attributes with
    | .ok _ => .ok true
    | .error fault => if fault.kind = .key then .ok false else .error fault
  | .hostMapping _ holds _ => holds name
  | .reflected value => value.has name
  | .scalar _ | .absent => .ok false

/-- **The member of a name, if the value says that it has one.** It is asked first, and then the
member is looked up. -/
def member? (name : Chars) (value : Value) : Except Fault (Option Value) := do
  if ← value.has name then
    let member ← value.lookup name
    return some member
  else return none

/-- **The value counts as true.** Mappings and objects always do; a sequence does when it has an
item, and is asked for its size. -/
def isTruthy : Value → Except Fault Bool
  | .scalar simple => .ok simple.isTruthy
  | .list items | .tuple items => .ok !items.isEmpty
  | .range progression => progression.size.map (0 < ·)
  | .mapping _ | .hostMapping .. | .octets .. | .object .. => .ok true
  | .reflected value => value.isTruthy
  | .absent => .ok false

/-- **The items a block is rendered for**: those of a sequence, wrapped, and of any other value the
value itself, if it counts as true. -/
def items : Value → Except Fault (List Value)
  | .list items | .tuple items => items.mapM reflect
  | .range progression => .ok (progression.toList.map ofInt)
  | .scalar simple => .ok (if simple.isTruthy then [.scalar simple] else [])
  | .reflected value => value.items
  | .absent => .ok []
  | value => .ok [value]

/-- **The text of the value is never escaped.** -/
def isSafe : Value → Bool
  | .scalar (.safe _) => true
  | .reflected value => value.isSafe
  | _ => false

end Value

end Mustache
