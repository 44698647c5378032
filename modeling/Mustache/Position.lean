import Mustache.Text.Basic

/-!
# Lines and columns

A fault in a template is reported by line and column, both counted from one. A line begins at the
start of the text and after every line feed; the column is the distance from the beginning of the
line, plus one. An offset past the end belongs to the last line, and its column goes on counting.
A negative offset, which only a token made by hand can have, is on the line of the character that
many places before the end, and its column is what its distance from the beginning of that line
comes to.
-/

namespace Mustache

/-- **A place in a text**: line and column, both from one. -/
structure Position where
  line : Nat
  column : Int
deriving DecidableEq, Repr, Inhabited

namespace Position

/-- The offset at which the last line of a text begins. -/
def lastLineStart (text : Chars) : Nat :=
  text.length - (text.reverse.takeWhile (· ≠ '\n')).length

/-- The text before an offset; a negative offset counts from the end. -/
def textBefore (source : Chars) : Int → Chars
  | .ofNat offset => source.take offset
  | .negSucc fromEnd => source.take (source.length - (fromEnd + 1))

/-- **The place of an offset**: one line more than there are line feeds before it, and one column
more than its distance from the beginning of its line. -/
def ofOffset (source : Chars) (offset : Int) : Position :=
  let before := textBefore source offset
  { line := before.count '\n' + 1, column := offset - lastLineStart before + 1 }

end Position

end Mustache
