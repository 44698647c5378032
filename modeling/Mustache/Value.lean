import Mustache.Fault

/-!
# Values

The data a template is rendered with is a `Value`: a scalar, a sequence, a mapping or an object of
the host. To a template every value is one of five variants, and what it can do with a value hangs
on the variant alone. Lists, tuples and ranges are sequences; a sequence of octets counts as an
object.

What the host makes itself answers as the host likes. An object has attributes, and a mapping of the
host's own says of a name whether it has it, and gives what belongs to it; the two need not fit.
What any of them does when it is printed, compared or taken for a number is in its `Host`. Each
answer may be a failure.

A value may be **reflected**: wrapped by the host before it was handed over. A reflected value
behaves exactly as the value inside, and only the quoted form of what contains it shows the
difference. A value that is not wrapped yet is wrapped as what it **passes for** (`Value.reflect`):
an object is asked for its class, and may name another class than its own, or fail.
-/

namespace Mustache

/-- **A scalar.** A safe text is one that is never escaped. -/
inductive Scalar where
  | null
  | boolean (value : Bool)
  | integer (value : Int)
  | float (value : Float)
  | string (text : Chars)
  | safe (text : Chars)
deriving Repr, Inhabited

namespace Scalar

/-- The text of a string, safe or not. -/
def string? : Scalar → Option Chars
  | .string text | .safe text => some text
  | _ => none

end Scalar

/-- **An arithmetic progression**: from `first`, in steps of `step`, up to but without `stop`. -/
structure Progression where
  first : Int
  stop : Int
  step : Int
deriving DecidableEq, Repr, Inhabited

namespace Progression

/-- How many members the progression has. -/
def length (p : Progression) : Nat :=
  if 0 < p.step then ((p.stop - p.first + p.step - 1) / p.step).toNat
  else if p.step < 0 then ((p.first - p.stop - p.step - 1) / (-p.step)).toNat
  else 0

/-- The size beyond which no sequence may be asked for its size. -/
def sizeLimit : Nat := Nat.pow 2 63 - 1

/-- **The size of the progression**, as it is told to whoever asks. -/
def size (p : Progression) : Except Fault Nat :=
  if p.length ≤ sizeLimit then .ok p.length else .error .tooLong

/-- The member of an index. -/
def member (p : Progression) (index : Nat) : Int := p.first + index * p.step

/-- All members, in order. -/
def toList (p : Progression) : List Int := (List.range p.length).map p.member

end Progression

/-- **How something of the host's own making answers** when it is printed (as a text, and quoted),
taken for a whole number, or compared with a text. -/
structure Host where
  typeName : Chars
  text : Except Fault Chars
  shown : Except Fault Chars
  number : Except Fault Int
  equals : Chars → Except Fault Bool
deriving Inhabited

/-- A host that has two texts, is no number, and equals no text. -/
def Host.plain (text shown : Chars) : Host where
  typeName := "object".toList
  text := .ok text
  shown := .ok shown
  number := .error (.host .type "not a number".toList)
  equals _ := .ok false

/-- **A value of the host.** -/
inductive Value where
  | scalar (scalar : Scalar)
  | list (items : List Value)
  | tuple (items : List Value)
  | range (progression : Progression)
  /-- Keys with their values, in the order the host gives them. A key is a value itself. -/
  | mapping (entries : List (Value × Value))
  /-- Octets, with what reading each attribute gives. -/
  | octets (octets : List UInt8) (attributes : List (Chars × Except Fault Value))
  /-- A host object, with what reading each attribute gives. -/
  | object (host : Host) (attributes : List (Chars × Except Fault Value))
  /-- A mapping of the host's own: whether it says that it holds a name, and what it gives for it.
  -/
  | hostMapping (host : Host) (holds : Chars → Except Fault Bool)
      (gives : Chars → Except Fault Value)
  /-- A value wrapped by the host. -/
  | reflected (value : Value)
  /-- The value of a name that nothing answers to. -/
  | absent
deriving Inhabited

/-- **What a value is to a template.** -/
inductive Variant where
  | scalar
  | sequence
  | mapping
  | object
  | absent
deriving DecidableEq, Repr, Inhabited

/-- The name of a variant in quoted forms. -/
def Variant.name : Variant → Chars
  | .scalar => "ScalarValue".toList
  | .sequence => "SequenceValue".toList
  | .mapping => "MappingValue".toList
  | .object => "ObjectValue".toList
  | .absent => "AbsentValue".toList

namespace Value

/-- A value that is nothing. -/
def null : Value := .scalar .null

/-- A string. -/
def ofChars (text : Chars) : Value := .scalar (.string text)

/-- An integer. -/
def ofInt (n : Int) : Value := .scalar (.integer n)

/-- The value without any wrapping. -/
def bare : Value → Value
  | .reflected value => value.bare
  | value => value

/-- The attribute in which an object names its class. -/
def classAttribute : Chars := "__class__".toList

/-- **What a value passes for.** An object is asked for its class. If it names another than its own,
the answer is a value of that class, as which the object behaves; reading the class may also fail.
-/
def guise : Value → Except Fault Value
  | .object host attributes =>
    match attributes.lookup classAttribute with
    | none => .ok (.object host attributes)
    | some answer => answer.map bare
  | value => .ok value

/-- **The value as it is wrapped**, if it can be: as what it passes for. What is wrapped already is
not asked again. -/
def reflect : Value → Except Fault Value
  | .reflected value => .ok value.bare
  | value => value.guise

/-- The variant of a value. -/
def variant : Value → Variant
  | .scalar _ => .scalar
  | .list _ | .tuple _ | .range _ => .sequence
  | .mapping _ | .hostMapping .. => .mapping
  | .octets .. | .object .. => .object
  | .reflected value => value.variant
  | .absent => .absent

/-- The text of a string value, safe or not. -/
def string? : Value → Option Chars
  | .scalar simple => simple.string?
  | _ => none

/-- The name of a value's type, as a message gives it. -/
def typeName : Value → Chars
  | .scalar .null => "NoneType".toList
  | .scalar (.boolean _) => "bool".toList
  | .scalar (.integer _) => "int".toList
  | .scalar (.float _) => "float".toList
  | .scalar (.string _) => "str".toList
  | .scalar (.safe _) => "SafeString".toList
  | .list _ => "list".toList
  | .tuple _ => "tuple".toList
  | .range _ => "range".toList
  | .mapping _ => "dict".toList
  | .octets .. => "bytes".toList
  | .object host _ | .hostMapping host .. => host.typeName
  | .reflected value => value.variant.name
  | .absent => Variant.absent.name

end Value

end Mustache
