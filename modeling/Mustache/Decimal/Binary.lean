/-!
# Floating-point numbers, exactly

A finite floating-point number is a whole number times a power of two. `Binary.ofFloat` reads both
from the 64 bits: one sign bit, eleven bits of exponent, and fifty-two bits of fraction. The largest
exponent field marks infinity and what is not a number; the smallest marks zero and the subnormal
numbers, which lack the leading one.
-/

namespace Mustache.Decimal

/-- **A floating-point number**, exactly: `significand * 2 ^ exponent`, with its sign. -/
inductive Binary where
  | notANumber
  | infinite (negative : Bool)
  | finite (negative : Bool) (significand : Nat) (exponent : Int)
deriving DecidableEq, Repr

namespace Binary

/-- The significand of a normal number begins with this bit. -/
def leadingBit : Nat := Nat.pow 2 52

/-- The least exponent, that of zero and of the subnormal numbers. -/
def leastExponent : Int := -1074

/-- **What the bits of a floating-point number denote.** -/
def ofBits (bits : Nat) : Binary :=
  let negative := bits / Nat.pow 2 63 % 2 = 1
  let field := bits / leadingBit % 2048
  let fraction := bits % leadingBit
  if field = 2047 then
    if fraction = 0 then .infinite negative else .notANumber
  else if field = 0 then .finite negative fraction leastExponent
  else .finite negative (leadingBit + fraction) (leastExponent + field - 1)

/-- What a floating-point number denotes. -/
def ofFloat (x : Float) : Binary := ofBits x.toBits.toNat

/-- The whole number with this sign and size. -/
def signed (negative : Bool) (size : Nat) : Int := if negative then -(size : Int) else size

/-- The number is zero, of either sign. -/
def isZero : Binary → Bool
  | .finite _ significand _ => significand = 0
  | _ => false

/-- **The whole part of a finite number**, toward zero. -/
def truncate (negative : Bool) (significand : Nat) (exponent : Int) : Int :=
  signed negative <|
    if exponent < 0 then significand / Nat.pow 2 (-exponent).toNat
    else significand * Nat.pow 2 exponent.toNat

/-- **Two floating-point numbers are equal as numbers**: of zero the sign does not count, and what is
not a number equals nothing. -/
def isEqual : Binary → Binary → Bool
  | .infinite a, .infinite b => a = b
  | .finite na sa ea, .finite nb sb eb =>
    let least := min ea eb
    signed na (sa * Nat.pow 2 (ea - least).toNat) = signed nb (sb * Nat.pow 2 (eb - least).toNat)
  | _, _ => false

/-- A whole number in the form of a floating-point number, exactly, however large. -/
def ofInt (n : Int) : Binary := .finite (n < 0) n.natAbs 0

end Binary

end Mustache.Decimal
