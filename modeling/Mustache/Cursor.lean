import Mustache.Fault
import Mustache.Pattern

/-!
# The cursor

A cursor stands at a point of a text and only ever moves forward. It keeps the text behind it,
nearest character first, and the text ahead of it; both together are the text it was started on.
Every pattern is matched exactly where the cursor stands: a match further along does not count.

**The laws.** `scan_source` and `scanTo_source`: moving keeps the text. `scan_ahead`: a scan takes
its match from the front of what is ahead and leaves the rest.
-/

namespace Mustache

/-- **A point of a text**: what lies behind it, nearest character first, what lies ahead, and its
offset. -/
structure Cursor where
  behind : Chars
  ahead : Chars
  position : Nat
  /-- The offset counts the characters behind. -/
  position_eq : position = behind.length
deriving DecidableEq, Repr

namespace Cursor

/-- A cursor at the beginning of a text. -/
def start (source : Chars) : Cursor := ⟨[], source, 0, rfl⟩

instance : Inhabited Cursor := ⟨start []⟩

/-- The whole text, behind and ahead. -/
def source (cursor : Cursor) : Chars := cursor.behind.reverse ++ cursor.ahead

/-- Something lies ahead. -/
def hasRemaining (cursor : Cursor) : Bool := !cursor.ahead.isEmpty

/-- The cursor is at the beginning of the text, or right after a line feed. -/
def atLineStart (cursor : Cursor) : Bool :=
  match cursor.behind with
  | [] => true
  | c :: _ => c == '\n'

/-- Line and column of the cursor. -/
def place (cursor : Cursor) : Place :=
  .ofPosition (.ofOffset cursor.source cursor.position)

/-- The cursor moved over the next `n` characters. -/
def advance (cursor : Cursor) (n : Nat) : Cursor :=
  let taken := cursor.ahead.take n
  ⟨taken.reverse ++ cursor.behind, cursor.ahead.drop n, cursor.position + taken.length, by
    simp [cursor.position_eq, Nat.add_comm]⟩

/-- The pattern matches where the cursor stands. -/
def hasMatch (cursor : Cursor) (pattern : Pattern) : Bool :=
  (pattern.match? cursor.ahead).isSome

/-- **Takes the text of the pattern** where the cursor stands, or reports that it does not match
there. -/
def scan (cursor : Cursor) (pattern : Pattern) : Except Fault (Chars × Cursor) :=
  match pattern.match? cursor.ahead with
  | some taken => .ok (taken, cursor.advance taken.length)
  | none => .error (.malformed (.unmatched cursor.position pattern.written) cursor.place)

/-- The offset of the next occurrence of a text, at or after the cursor. -/
def find? (cursor : Cursor) (literal : Chars) : Option Nat :=
  (Chars.offsetOf? literal cursor.ahead).map (cursor.position + ·)

/-- **Takes everything up to an offset**, or the rest of the text when it ends before. A cursor
does not move back. -/
def scanTo (cursor : Cursor) (offset : Nat) : Except Fault (Chars × Cursor) :=
  if offset < cursor.position then .error (.backwards cursor.position offset)
  else
    let distance := offset - cursor.position
    .ok (cursor.ahead.take distance, cursor.advance distance)

/-! ## Moving keeps the text -/

@[simp] theorem source_start (source : Chars) : (start source).source = source := rfl

@[simp] theorem position_start (source : Chars) : (start source).position = 0 := rfl

@[simp] theorem source_advance (cursor : Cursor) (n : Nat) :
    (cursor.advance n).source = cursor.source := by
  simp [advance, source, List.append_assoc]

theorem ahead_advance (cursor : Cursor) (n : Nat) :
    (cursor.advance n).ahead = cursor.ahead.drop n := rfl

/-- What a scan takes, it takes from the front of what is ahead. -/
theorem scan_ahead {cursor next : Cursor} {pattern : Pattern} {taken : Chars}
    (h : cursor.scan pattern = .ok (taken, next)) : cursor.ahead = taken ++ next.ahead := by
  simp only [scan] at h
  split at h
  next t ht =>
    cases h
    obtain ⟨rest, hrest⟩ := Pattern.match?_isPrefix ht
    rw [ahead_advance, ← hrest]
    simp
  · cases h

/-- A scan keeps the text. -/
theorem scan_source {cursor next : Cursor} {pattern : Pattern} {taken : Chars}
    (h : cursor.scan pattern = .ok (taken, next)) : next.source = cursor.source := by
  simp only [scan] at h
  split at h <;> cases h
  simp

/-- A scan for a literal takes that literal. -/
theorem scan_literal {cursor next : Cursor} {literal taken : Chars}
    (h : cursor.scan (.literal literal) = .ok (taken, next)) : taken = literal := by
  simp only [scan, Pattern.match?] at h
  split at h
  next ht =>
    split at ht <;> cases ht
    cases h; rfl
  · cases h

/-- What is taken up to an offset is the front of what is ahead. -/
theorem scanTo_ahead {cursor next : Cursor} {offset : Nat} {taken : Chars}
    (h : cursor.scanTo offset = .ok (taken, next)) : cursor.ahead = taken ++ next.ahead := by
  simp only [scanTo] at h
  split at h <;> cases h
  simp [ahead_advance]

/-- Moving to an offset keeps the text. -/
theorem scanTo_source {cursor next : Cursor} {offset : Nat} {taken : Chars}
    (h : cursor.scanTo offset = .ok (taken, next)) : next.source = cursor.source := by
  simp only [scanTo] at h
  split at h <;> cases h
  simp

end Cursor

end Mustache
