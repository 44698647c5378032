import Mustache.Text.Basic
import Mustache.Text.Digit
import Mustache.Text.Space

/-!
# Reading an integer

A text denotes an integer when it consists of an optional sign and decimal digits of any script,
where a single underscore may stand between two digits, and blanks may stand around the whole. A
text of more than `digitLimit` digits denotes none.
-/

namespace Mustache.Decimal

/-- The most digits an integer may be written with. -/
def digitLimit : Nat := 4300

/-- **The digits of a numeral**: decimal digits, with a single underscore allowed between two. The
flag says that a digit stands right before. -/
def readDigits? : Bool → Chars → Option (List Nat)
  | afterDigit, [] => if afterDigit then some [] else none
  | afterDigit, c :: rest =>
    if c = '_' then
      if afterDigit then readDigits? false rest else none
    else
      match Text.digitValue? c with
      | some digit => (readDigits? true rest).map (digit :: ·)
      | none => none

/-- The number that digits denote in base ten, most significant first. -/
def ofDigits (digits : List Nat) : Nat := digits.foldl (fun n digit => 10 * n + digit) 0

/-- A numeral without sign. -/
def readNat? (text : Chars) : Option Nat :=
  (readDigits? false text).bind fun digits =>
    if digits.length ≤ digitLimit then some (ofDigits digits) else none

/-- **The integer that a text denotes.** -/
def readInt? (text : Chars) : Option Int :=
  match Chars.trim Text.padsNumber text with
  | '-' :: rest => (readNat? rest).map fun n => -(n : Int)
  | '+' :: rest => (readNat? rest).map fun n => (n : Int)
  | rest => (readNat? rest).map fun n => (n : Int)

end Mustache.Decimal
