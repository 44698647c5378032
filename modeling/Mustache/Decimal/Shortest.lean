import Mustache.Decimal.Binary
import Mustache.Text.Basic

/-!
# The shortest decimal that reads back

A positive floating-point number stands for every real number that is closer to it than to its
neighbours, and both ends of that interval belong to it when its significand is even. The digits
shown are the fewest whose decimal lies in the interval, and of several with that many digits the
one nearest to the number itself.

For each count of digits from one to seventeen, the grid of decimals with that many digits has two
points next to the number, one at or below it and one above. The first grid with such a point in
the interval wins (`digits`). All comparisons are between whole numbers.
-/

namespace Mustache.Decimal

/-- **A decimal**: `digits * 10 ^ exponent`. -/
structure Scaled where
  digits : Nat
  exponent : Int
deriving DecidableEq, Repr, Inhabited

/-- The interval of a number, and the number itself, as numerators over one denominator. -/
structure Interval where
  lower : Nat
  value : Nat
  upper : Nat
  denominator : Nat
  /-- The ends belong to the interval. -/
  closed : Bool

namespace Interval

/-- **The interval of reals that a number stands for.** Just above a power of two the neighbour
below is only half as far away. -/
def ofBinary (significand : Nat) (exponent : Int) : Interval :=
  let unit := Nat.pow 2 (exponent - 2).toNat
  let below :=
    if significand = Binary.leadingBit ∧ Binary.leastExponent < exponent then 1 else 2
  { lower := (4 * significand - below) * unit
    value := 4 * significand * unit
    upper := (4 * significand + 2) * unit
    denominator := Nat.pow 2 (2 - exponent).toNat
    closed := significand % 2 = 0 }

/-- The interval with everything multiplied so that the points of the grid `10 ^ exponent` have the
denominator as their distance. -/
def onGrid (interval : Interval) (exponent : Int) : Interval :=
  let up := Nat.pow 10 (-exponent).toNat
  { interval with
    lower := interval.lower * up
    value := interval.value * up
    upper := interval.upper * up
    denominator := interval.denominator * Nat.pow 10 exponent.toNat }

/-- The point of the grid lies in the interval. -/
def contains (interval : Interval) (point : Nat) : Bool :=
  let place := point * interval.denominator
  if interval.closed then interval.lower ≤ place && place ≤ interval.upper
  else interval.lower < place && place < interval.upper

/-- **The point of the grid in the interval**, the nearer one if there are two, and of two at the
same distance the even one. -/
def gridPoint? (interval : Interval) : Option Nat :=
  let low := interval.value / interval.denominator
  let high := low + 1
  match interval.contains low, interval.contains high with
  | true, true =>
    let toLow := interval.value - low * interval.denominator
    let toHigh := high * interval.denominator - interval.value
    if toLow < toHigh || (toLow = toHigh && low % 2 = 0) then some low else some high
  | true, false => some low
  | false, true => some high
  | false, false => none

/-- How many digits the number has before its point; zero or less when it is below one tenth. -/
def magnitude (interval : Interval) : Int :=
  (Chars.ofNat (interval.value * Nat.pow 10 400 / interval.denominator)).length - 400

end Interval

/-- The most digits that are ever needed. -/
def mostDigits : Nat := 17

/-- **The shortest decimal that reads back** as the number. -/
def shortest (significand : Nat) (exponent : Int) : Scaled :=
  let interval := Interval.ofBinary significand exponent
  let magnitude := interval.magnitude
  let found := (List.range mostDigits).findSome? fun (count : Nat) =>
    let place := magnitude - (count + 1)
    ((interval.onGrid place).gridPoint?).map fun digits => (⟨digits, place⟩ : Scaled)
  found.getD ⟨0, 0⟩

/-! ## Writing a decimal -/

/-- **How decimals are written**: positionally while the point stands no further left and no further
right than these places from the first digit, and otherwise with an exponent of at least so many
digits. -/
structure Layout where
  leastPoint : Int
  mostPoint : Int
  exponentDigits : Nat

namespace Layout

/-- An exponent with its sign. -/
def exponentText (layout : Layout) (exponent : Int) : Chars :=
  let digits := Chars.ofNat exponent.natAbs
  let zeros := List.replicate (layout.exponentDigits - digits.length) '0'
  (if exponent < 0 then '-' else '+') :: (zeros ++ digits)

/-- **A positive decimal, written.** The point stands after `point` of the digits; trailing zeros
are not written, but one digit always follows the point of a positional form. -/
def write (layout : Layout) (decimal : Scaled) : Chars :=
  let all := Chars.ofNat decimal.digits
  let digits := Chars.trimEnd (· = '0') all
  let point := decimal.exponent + all.length
  if point < layout.leastPoint ∨ layout.mostPoint < point then
    let tail := digits.drop 1
    digits.take 1 ++ (if tail = [] then [] else '.' :: tail)
      ++ 'e' :: layout.exponentText (point - 1)
  else if point ≤ 0 then
    '0' :: '.' :: (List.replicate (-point).toNat '0' ++ digits)
  else
    let whole := digits.take point.toNat
    let zeros := List.replicate (point.toNat - digits.length) '0'
    let tail := digits.drop point.toNat
    whole ++ zeros ++ '.' :: (if tail = [] then ['0'] else tail)

/-- **A floating-point number, written**: a sign, then the shortest decimal; zero is a decimal of
its own, and infinity and what is not a number have names. -/
def writeFloat (layout : Layout) (x : Float) : Chars :=
  match Binary.ofFloat x with
  | .notANumber => "nan".toList
  | .infinite negative => (if negative then ['-'] else []) ++ "inf".toList
  | .finite negative significand exponent =>
    (if negative then ['-'] else []) ++
      if significand = 0 then "0.0".toList else layout.write (shortest significand exponent)

end Layout

end Mustache.Decimal
