import Mustache.Text.Basic
import Mustache.Text.Digit
import Mustache.Text.Space

/-!
# Reading a floating-point number

A numeral is written with a sign, digits with at most one point among them, and an exponent of ten
(`readNumeral?`); it is read piece by piece, whole digits, fraction, exponent. A text denotes a
floating-point number (`readFloat?`) when it is a numeral, or when it names infinity or what is not
a number in upper or lower case. There the digits may be those of any script, a single underscore
may stand between two of them, and blanks may stand around the whole.
-/

namespace Mustache.Decimal

/-- A decimal digit of ASCII. -/
def isDigit (c : Char) : Bool := '0' ≤ c && c ≤ '9'

/-- The number that ASCII digits denote. -/
def ofAsciiDigits (digits : Chars) : Nat :=
  digits.foldl (fun n c => 10 * n + (c.toNat - '0'.toNat)) 0

/-- A sign, if there is one, and what follows. -/
def takeSign : Chars → Bool × Chars
  | '-' :: rest => (true, rest)
  | '+' :: rest => (false, rest)
  | rest => (false, rest)

/-! ## Numerals -/

/-- The exponent at the end of a number; nothing means zero. -/
def readExponent? : Chars → Option Int
  | [] => some 0
  | c :: rest =>
    if c = 'e' ∨ c = 'E' then
      let (negative, digits) := takeSign rest
      if digits = [] ∨ digits.any fun d => !isDigit d then none
      else
        let size : Int := ofAsciiDigits digits
        some (if negative then -size else size)
    else none

/-- A number whose first digit stands further than this from its point is as good as zero, or as
infinity. -/
def farthestPoint : Int := 400

/-- The number `digits * 10 ^ exponent`, rounded to the nearest floating-point number. -/
def scaledFloat (digits : Nat) (exponent : Int) : Float :=
  let point := (Chars.ofNat digits).length + exponent
  if digits = 0 ∨ point < -farthestPoint then 0.0
  else if farthestPoint < point then 1.0 / 0.0
  else Float.ofScientific digits (exponent < 0) exponent.natAbs

/-- A numeral without sign. -/
def readMagnitude? (text : Chars) : Option Float :=
  let whole := text.takeWhile isDigit
  let afterWhole := text.dropWhile isDigit
  let (fraction, afterFraction) :=
    match afterWhole with
    | '.' :: rest => (rest.takeWhile isDigit, rest.dropWhile isDigit)
    | rest => ([], rest)
  if whole = [] ∧ fraction = [] then none
  else
    (readExponent? afterFraction).map fun exponent =>
      scaledFloat (ofAsciiDigits (whole ++ fraction)) (exponent - fraction.length)

/-- The number with a sign before it. -/
def withSign (negative : Bool) (x : Float) : Float := if negative then -x else x

/-- **The floating-point number that a numeral denotes.** -/
def readNumeral? (text : Chars) : Option Float :=
  let (negative, rest) := takeSign text
  (readMagnitude? rest).map (withSign negative)

/-! ## Texts -/

/-- The text without its underscores, each of which must stand between two digits. The flag says
that a digit stands right before. -/
def joinDigits? (digit : Char → Bool) : Bool → Chars → Option Chars
  | _, [] => some []
  | afterDigit, c :: rest =>
    if c = '_' then
      if afterDigit && rest.head?.any digit then joinDigits? digit false rest else none
    else (joinDigits? digit (digit c) rest).map (c :: ·)

/-- A digit of any script as the digit of ASCII; any other character as it is. -/
def asciiDigit (c : Char) : Char := ((Text.digitValue? c).map Nat.digitChar).getD c

/-- The number that has a name of its own. -/
def namedFloat? (name : Chars) : Option Float :=
  let lower := name.map Char.toLower
  if lower = "inf".toList ∨ lower = "infinity".toList then some (1.0 / 0.0)
  else if lower = "nan".toList then some (0.0 / 0.0)
  else none

/-- **The floating-point number that a text denotes.** -/
def readFloat? (text : Chars) : Option Float := do
  let joined ← joinDigits? isDigit false ((Chars.trim Text.padsNumber text).map asciiDigit)
  let (negative, rest) := takeSign joined
  let size ← (namedFloat? rest).or (readMagnitude? rest)
  return withSign negative size

end Mustache.Decimal
