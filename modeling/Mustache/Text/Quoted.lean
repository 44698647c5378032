import Mustache.Text.Basic
import Mustache.Text.Printable

/-!
# The quoted form of a text

Messages and the text of containers show a text **quoted**: between apostrophes, or between
quotation marks when it holds an apostrophe and no quotation mark. The quote that is used, and the
backslash, are written after a backslash; tab, line feed and carriage return have the short forms
`\t`, `\n`, `\r`; any other character that is not printable is written by its code point in
hexadecimal, with two, four or eight digits (`\x`, `\u`, `\U`). A sequence of octets is quoted the
same way after a `b`, and there every octet outside printable ASCII has the two-digit form.
-/

namespace Mustache.Text

/-- The number in hexadecimal, filled with zeros on the left up to `width` digits. -/
def hex (width n : Nat) : Chars :=
  let digits := Nat.toDigits 16 n
  List.replicate (width - digits.length) '0' ++ digits

/-- **The quote around a text**: an apostrophe, unless only the quotation mark needs no escape. -/
def quoteFor (text : Chars) : Char :=
  if text.contains '\'' && !text.contains '"' then '"' else '\''

/-- The code point of a character that is not printable. -/
def escapeByCode (c : Char) : Chars :=
  if c.toNat < 0x100 then '\\' :: 'x' :: hex 2 c.toNat
  else if c.toNat < 0x10000 then '\\' :: 'u' :: hex 4 c.toNat
  else '\\' :: 'U' :: hex 8 c.toNat

/-- One character of a quoted text. -/
def quoteChar (printable : Char → Bool) (quote c : Char) : Chars :=
  if c = quote || c = '\\' then ['\\', c]
  else if c = '\t' then ['\\', 't']
  else if c = '\n' then ['\\', 'n']
  else if c = '\r' then ['\\', 'r']
  else if printable c then [c]
  else escapeByCode c

/-- **The quoted form of a text.** -/
def quoted (text : Chars) : Chars :=
  let quote := quoteFor text
  quote :: text.flatMap (quoteChar isPrintable quote) ++ [quote]

/-- **The quoted form of a sequence of octets.** -/
def quotedOctets (octets : List UInt8) : Chars :=
  let text := octets.map fun octet => Char.ofNat octet.toNat
  let quote := quoteFor text
  'b' :: quote :: text.flatMap (quoteChar (fun c => isAscii c && isPrintable c) quote) ++ [quote]

end Mustache.Text
