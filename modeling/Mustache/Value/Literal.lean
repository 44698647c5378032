import Mustache.Decimal.Float
import Mustache.Decimal.Integer
import Mustache.Value

/-!
# Values from their written parts

A host may hand over a number as a text, a progression as its bounds, and octets as numbers. Each
has its own fault when it is none.
-/

namespace Mustache.Value

/-- **A floating-point number by its text.** -/
def ofFloatText (text : Chars) : Except Fault Value :=
  match Decimal.readFloat? text with
  | some x => .ok (.scalar (.float x))
  | none => .error (.notAFloat text)

/-- **An integer by its text.** -/
def ofIntText (text : Chars) : Except Fault Value :=
  match Decimal.readInt? text with
  | some n => .ok (.ofInt n)
  | none => .error (.notAnInteger text)

/-- **A progression by its bounds.** It begins at zero and goes in steps of one unless told
otherwise. -/
def ofBounds : List Int → Except Fault Value
  | [] => .ok (.range ⟨0, 0, 1⟩)
  | [stop] => .ok (.range ⟨0, stop, 1⟩)
  | [first, stop] => .ok (.range ⟨first, stop, 1⟩)
  | first :: stop :: step :: _ =>
    if step = 0 then .error .zeroStep else .ok (.range ⟨first, stop, step⟩)

/-- **Octets by their numbers.** -/
def ofNumbers (numbers : List Int) : Except Fault Value :=
  if numbers.all fun n => 0 ≤ n && n < 256 then
    .ok (.octets (numbers.map fun n => n.toNat.toUInt8) [])
  else .error .notAnOctet

end Mustache.Value
