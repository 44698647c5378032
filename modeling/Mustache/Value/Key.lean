import Mustache.Decimal.Binary
import Mustache.Value

/-!
# Keys and mappings

A mapping holds one entry for each key. Two keys are the same when they are equal: truth values,
integers and floating-point numbers by the number they stand for, strings by their characters,
whether safe or not, tuples item by item, progressions by the numbers they run through. A host
object or a wrapped value is the same as no other. A list or a mapping, alone or inside a tuple,
cannot be a key at all.
-/

namespace Mustache

/-- The number that a scalar stands for: a truth value stands for one or zero. -/
def Scalar.number? : Scalar → Option Decimal.Binary
  | .boolean flag => some (.ofInt (if flag then 1 else 0))
  | .integer n => some (.ofInt n)
  | .float x => some (.ofFloat x)
  | .null | .string _ | .safe _ => none

/-- **Two scalars are the same key.** -/
def Scalar.isSameKey (a b : Scalar) : Bool :=
  match a.number?, b.number? with
  | some x, some y => x.isEqual y
  | none, none => a.string? = b.string?
  | _, _ => false

/-- Two progressions run through the same numbers. -/
def Progression.isSame (p q : Progression) : Bool :=
  p.length = q.length
    && (p.length = 0 || p.first = q.first && (p.length = 1 || p.step = q.step))

namespace Value

/-- The value is that of a name that nothing answers to, wrapped or not. -/
def isAbsent : Value → Bool
  | .absent => true
  | .reflected value => value.isAbsent
  | _ => false

mutual

/-- **Two values are the same key.** -/
def isSameKey : Value → Value → Bool
  | .scalar a, .scalar b => a.isSameKey b
  | .tuple as, .tuple bs => areSameKeys as bs
  | .range p, .range q => p.isSame q
  | .octets as _, .octets bs _ => as = bs
  | a, b => a.isAbsent && b.isAbsent

/-- Two sequences of values are the same, item by item. -/
def areSameKeys : List Value → List Value → Bool
  | [], [] => true
  | a :: as, b :: bs => a.isSameKey b && areSameKeys as bs
  | _, _ => false

end

mutual

/-- The part of a value that keeps it from being a key. -/
def obstacle? : Value → Option Value
  | .list items => some (.list items)
  | .mapping entries => some (.mapping entries)
  | .hostMapping host holds gives => some (.hostMapping host holds gives)
  | .tuple items => firstObstacle? items
  | _ => none

/-- The first part of several values that keeps one of them from being a key. -/
def firstObstacle? : List Value → Option Value
  | [] => none
  | item :: rest => item.obstacle?.or (firstObstacle? rest)

end

/-- The entries with one more. A key that is there already keeps its place and its form, and takes
the value. -/
def insertEntry (key value : Value) : List (Value × Value) → List (Value × Value)
  | [] => [(key, value)]
  | (other, old) :: rest =>
    if other.isSameKey key then (other, value) :: rest
    else (other, old) :: insertEntry key value rest

/-- **One more entry of a mapping**, if its key can be one. -/
def addEntry (key value : Value) (entries : List (Value × Value)) :
    Except Fault (List (Value × Value)) :=
  match key.obstacle? with
  | some part => .error (.notAKey part.typeName)
  | none => .ok (insertEntry key value entries)

end Value

end Mustache
