import Mustache.Cursor

/-!
# The scanner

A scanner is a cursor with absolute offsets. Unlike a cursor it may be sent past the end of its
text; there nothing lies ahead, nothing is found, and the question whether a line begins there has
no answer. An offset before the beginning of the text lies behind every scanner.
-/

namespace Mustache

/-- **A cursor, and how far past the end of the text it was sent.** -/
structure Scanner where
  cursor : Cursor
  overshoot : Nat
deriving DecidableEq, Repr, Inhabited

namespace Scanner

/-- A scanner at the beginning of a text. -/
def start (source : Chars) : Scanner := ⟨.start source, 0⟩

/-- The offset of the scanner. -/
def position (scanner : Scanner) : Nat := scanner.cursor.position + scanner.overshoot

/-- Something lies ahead. -/
def hasRemaining (scanner : Scanner) : Bool := scanner.cursor.hasRemaining

/-- **The scanner is at the beginning of a line.** -/
def atLineStart (scanner : Scanner) : Except Fault Bool :=
  if scanner.overshoot = 0 then .ok scanner.cursor.atLineStart else .error .noCharacter

/-- The pattern matches where the scanner stands. -/
def hasMatch (scanner : Scanner) (pattern : Pattern) : Bool := scanner.cursor.hasMatch pattern

/-- **Takes the text of the pattern.** -/
def scan (scanner : Scanner) (pattern : Pattern) : Except Fault (Chars × Scanner) :=
  match scanner.cursor.scan pattern with
  | .ok (taken, cursor) => .ok (taken, { scanner with cursor })
  | .error _ =>
    let place := Place.ofPosition (.ofOffset scanner.cursor.source scanner.position)
    .error (.malformed (.unmatched scanner.position pattern.written) place)

/-- The offset of the next occurrence of a text. -/
def find? (scanner : Scanner) (literal : Chars) : Option Nat :=
  if scanner.overshoot = 0 then scanner.cursor.find? literal else none

/-- **Takes everything up to an offset.** -/
def scanTo (scanner : Scanner) (offset : Int) : Except Fault (Chars × Scanner) :=
  if offset < scanner.position then .error (.backwards scanner.position offset)
  else do
    let (taken, cursor) ← scanner.cursor.scanTo offset.toNat
    return (taken, ⟨cursor, offset.toNat - cursor.position⟩)

end Scanner

end Mustache
