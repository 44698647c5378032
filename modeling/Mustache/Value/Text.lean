import Mustache.Decimal.Integer
import Mustache.Decimal.Shortest
import Mustache.Value

/-!
# The text of values

A value has two texts. Its **quoted form** shows its structure: strings between quotes, the items of
containers quoted in turn. Its **text** is what a tag prints: a string is its own text, nothing is
no text, truth values are `true` and `false`, and everything else prints as it is quoted, but for a
host object, which has a text of its own. Both may fail to be made: an integer may have too many
digits to be written, and what the host makes itself answers as it likes.

A value wrapped by the host is quoted with the name of its variant around it (`Value.described`),
and so are the frames of a scope.
-/

namespace Mustache

/-- **How floating-point numbers are written**: with the point at most three places before the first
digit and at most sixteen after it, and otherwise with an exponent of at least two digits. -/
def Scalar.floatLayout : Decimal.Layout := ⟨-3, 16, 2⟩

/-- **An integer as it is written**, unless it has more digits than one may be written with. -/
def Decimal.writeInt (n : Int) : Except Fault Chars :=
  if n.natAbs < Nat.pow 10 digitLimit then .ok (Chars.ofInt n) else .error .tooManyDigits

/-- The quoted form of a scalar. -/
def Scalar.quoted : Scalar → Except Fault Chars
  | .null => .ok "None".toList
  | .boolean true => .ok "True".toList
  | .boolean false => .ok "False".toList
  | .integer n => Decimal.writeInt n
  | .float x => .ok (Scalar.floatLayout.writeFloat x)
  | .string text | .safe text => .ok (Text.quoted text)

/-- **The text a tag prints for a scalar.** -/
def Scalar.text : Scalar → Except Fault Chars
  | .null => .ok []
  | .boolean true => .ok "true".toList
  | .boolean false => .ok "false".toList
  | .string text | .safe text => .ok text
  | scalar => scalar.quoted

/-- The quoted form of a progression; a step of one is left out. -/
def Progression.quoted (p : Progression) : Except Fault Chars := do
  let first ← Decimal.writeInt p.first
  let stop ← Decimal.writeInt p.stop
  if p.step = 1 then return "range(".toList ++ first ++ ", ".toList ++ stop ++ [')']
  else
    let step ← Decimal.writeInt p.step
    return "range(".toList ++ first ++ ", ".toList ++ stop ++ ", ".toList ++ step ++ [')']

/-- The quoted form of a value inside the name of its variant. -/
def Variant.around (variant : Variant) (shown : Chars) : Chars :=
  variant.name ++ '(' :: shown ++ [')']

namespace Value

/-- The quoted form shows the variant already. -/
def showsVariant : Value → Bool
  | .reflected _ | .absent => true
  | _ => false

mutual

/-- **The quoted form of a value.** -/
def quoted : Value → Except Fault Chars
  | .scalar simple => simple.quoted
  | .list items => return '[' :: (← quotedItems items) ++ [']']
  | .tuple [item] => return '(' :: (← item.quoted) ++ [',', ')']
  | .tuple items => return '(' :: (← quotedItems items) ++ [')']
  | .range progression => progression.quoted
  | .mapping entries => return '\x7b' :: (← quotedEntries entries) ++ ['\x7d']
  | .octets bytes _ => return Text.quotedOctets bytes
  | .object host _ | .hostMapping host .. => host.shown
  | .reflected value => do
    let inside ← value.quoted
    return if value.showsVariant then inside else value.variant.around inside
  | .absent => return Variant.absent.around "None".toList

/-- Quoted items, with commas between them. -/
def quotedItems : List Value → Except Fault Chars
  | [] => return []
  | [item] => item.quoted
  | item :: next :: rest => do
    let first ← item.quoted
    let others ← quotedItems (next :: rest)
    return first ++ ", ".toList ++ others

/-- Quoted entries, with commas between them. -/
def quotedEntries : List (Value × Value) → Except Fault Chars
  | [] => return []
  | [(key, value)] => return (← key.quoted) ++ ": ".toList ++ (← value.quoted)
  | (key, value) :: next :: rest => do
    let first ← key.quoted
    let item ← value.quoted
    let others ← quotedEntries (next :: rest)
    return first ++ ": ".toList ++ item ++ ", ".toList ++ others

end

/-- **The quoted form with the name of the variant around it.** -/
def described (value : Value) : Except Fault Chars := quoted (.reflected value)

/-- **The text a tag prints for a value.** -/
def text : Value → Except Fault Chars
  | .scalar simple => simple.text
  | .object host _ | .hostMapping host .. => host.text
  | .reflected value => value.text
  | .absent => return []
  | value => value.quoted

end Value

end Mustache
