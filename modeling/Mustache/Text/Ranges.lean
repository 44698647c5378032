/-!
# Ranges of code points

A character class beyond ASCII is a table of ranges. A code point belongs to the class when some
range of the table holds it, ends included.
-/

namespace Mustache.Text

/-- **Ranges of code points**, each with its first and last member. -/
abbrev Ranges := List (Nat × Nat)

/-- The code point lies in one of the ranges. -/
def Ranges.contains (ranges : Ranges) (point : Nat) : Bool :=
  ranges.any fun range => range.1 ≤ point && point ≤ range.2

/-- The character is one of the 128 of ASCII. -/
def isAscii (c : Char) : Bool := c.toNat < 128

end Mustache.Text
