import Mustache.Text.Ranges

/-!
# Blank characters

Two classes of blanks. A character is **white space** when Unicode says so, or when it is one of the
four ASCII separators from U+001C to U+001F: such characters separate the two halves of a delimiter
definition. A character **pads a number** when it may stand before or after the digits of an
integer: the same class without those four separators.
-/

namespace Mustache.Text

/-- **The white space beyond ASCII.** -/
def spaceRanges : Ranges :=
  [(0x85, 0x85), (0xA0, 0xA0), (0x1680, 0x1680), (0x2000, 0x200A), (0x2028, 0x2029),
    (0x202F, 0x202F), (0x205F, 0x205F), (0x3000, 0x3000)]

/-- White space that may pad the digits of an integer. -/
def padsNumber (c : Char) : Bool :=
  if isAscii c then c == ' ' || (0x09 ≤ c.toNat && c.toNat ≤ 0x0D)
  else spaceRanges.contains c.toNat

/-- White space, as it separates words. -/
def isSpace (c : Char) : Bool :=
  padsNumber c || (0x1C ≤ c.toNat && c.toNat ≤ 0x1F)

/-- A tab or a space: the characters that indent a line. -/
def isBlank (c : Char) : Bool := c == '\t' || c == ' '

/-- What indents a line is white space. -/
theorem isSpace_of_isBlank {c : Char} (h : isBlank c = true) : isSpace c = true := by
  simp only [isBlank, Bool.or_eq_true, beq_iff_eq] at h
  rcases h with rfl | rfl <;> decide

end Mustache.Text
