import Mustache.Proofs.Text.Lines

/-!
# Line and column as coordinates

A place within a text is as good as an offset. The text in front of a place is made of lines of the
whole text: all that come before the place's line, and of that line what is in front of its column
(`Position.front`). For the place of an offset this is the text before the offset
(`Position.front_ofOffset`), so no two offsets have the same place; and a later offset is on a later
line, or on the same line and further to the right (`Position.ofOffset_precedes`).

Both facts hang on how two texts meet: the last line of the first and the first line of the second
are one line of the whole (`lines_append`).
-/

namespace Mustache

open Chars

namespace Chars

/-- **Where two texts meet**, the last line of the first goes on in the first line of the second. -/
theorem lines_append {front last : Chars} {full : List Chars} (h : ByLines front full last)
    (text : Chars) :
    lines (front ++ text) = full ++ (lines text).modifyHead (last ++ ·) := by
  rw [h.text_eq, List.append_assoc, lines_endLines_append h.full_inLine]
  exact congrArg (full ++ ·) (split_append_of_not_mem h.last_inLine text)

end Chars

namespace Position

/-- **The text in front of a place**: the lines before the place's line, and of that line what is in
front of the column. -/
def front (source : Chars) (position : Position) : Chars :=
  endLines ((lines source).take (position.line - 1))
    ++ ((lines source)[position.line - 1]?.getD []).take (position.column - 1).toNat

/-- **A place comes before another**: on an earlier line, or further to the left on the same. -/
def Precedes (first second : Position) : Prop :=
  first.line < second.line ∨ first.line = second.line ∧ first.column < second.column

variable {source : Chars} {offset : Nat}

/-- The line and column of an offset by the lines of the text before it. -/
theorem ofOffset_byLines (hoffset : offset ≤ source.length) {full : List Chars} {last : Chars}
    (h : ByLines (source.take offset) full last) :
    ofOffset source offset = ⟨full.length + 1, (last.length + 1 : Nat)⟩ := by
  rw [ofOffset_eq hoffset, h.count_eq, h.lastLine_eq]

/-- **The lines of a text around an offset**: the full lines of the text before it come first, and
the next line goes on from the last of them. -/
theorem exists_lines_around (source : Chars) (offset : Nat) :
    ∃ full last rest, ByLines (source.take offset) full last
      ∧ (lines source).take full.length = full
      ∧ (lines source)[full.length]? = some (last ++ rest) := by
  obtain ⟨full, last, h⟩ := exists_byLines (source.take offset)
  obtain ⟨rest, others, hbehind⟩ :=
    List.exists_cons_of_ne_nil (split_ne_nil '\n' (source.drop offset))
  have hlines := lines_append h (source.drop offset)
  rw [List.take_append_drop, lines, lines, hbehind, List.modifyHead_cons] at hlines
  refine ⟨full, last, rest, h, ?_, ?_⟩
  · rw [lines, hlines, List.take_left]
  · rw [lines, hlines, List.getElem?_append_right (Nat.le_refl _), Nat.sub_self,
      List.getElem?_cons_zero]

/-- **In front of the place of an offset** stands the text before the offset. -/
theorem front_ofOffset (hoffset : offset ≤ source.length) :
    (ofOffset source offset).front source = source.take offset := by
  obtain ⟨full, last, rest, h, hfull, hline⟩ := exists_lines_around source offset
  have hcolumn : (((last.length + 1 : Nat) : Int) - 1).toNat = last.length := by omega
  calc (ofOffset source offset).front source
    _ = endLines ((lines source).take full.length)
          ++ ((lines source)[full.length]?.getD []).take
            (((last.length + 1 : Nat) : Int) - 1).toNat := by
      rw [ofOffset_byLines hoffset h]
      rfl
    _ = endLines full ++ last := by
      rw [hfull, hline, Option.getD_some, hcolumn, List.take_left]
    _ = source.take offset := h.text_eq.symm

/-- The column of an offset is at most one more than its line is long. -/
theorem column_ofOffset_le (hoffset : offset ≤ source.length) :
    ∃ row, (lines source)[(ofOffset source offset).line - 1]? = some row
      ∧ (ofOffset source offset).column ≤ row.length + 1 := by
  obtain ⟨full, last, rest, h, -, hline⟩ := exists_lines_around source offset
  rw [ofOffset_byLines hoffset h]
  refine ⟨last ++ rest, hline, ?_⟩
  show ((last.length + 1 : Nat) : Int) ≤ (last ++ rest).length + 1
  rw [List.length_append]
  omega

/-- Different offsets have different places. -/
theorem ofOffset_inj {other : Nat} (hoffset : offset ≤ source.length)
    (hother : other ≤ source.length) (h : ofOffset source other = ofOffset source offset) :
    other = offset := by
  have hfront := congrArg (Position.front source) h
  rw [front_ofOffset hother, front_ofOffset hoffset] at hfront
  have hlength := congrArg List.length hfront
  rwa [List.length_take_of_le hother, List.length_take_of_le hoffset] at hlength

/-- **A later offset is at a later place.** -/
theorem ofOffset_precedes {later : Nat} (h : offset < later) (hlater : later ≤ source.length) :
    (ofOffset source offset).Precedes (ofOffset source later) := by
  obtain ⟨between, hbetween⟩ : ∃ between, source.take later = source.take offset ++ between :=
    ⟨(source.take later).drop offset, by
      rw [← List.take_append_drop offset (source.take later), List.take_take,
        Nat.min_eq_left h.le, List.drop_left' (by rw [List.length_take]; omega)]⟩
  have hlength : 0 < between.length := by
    have hlengths := congrArg List.length hbetween
    rw [List.length_append, List.length_take_of_le hlater,
      List.length_take_of_le (h.le.trans hlater)] at hlengths
    omega
  rw [ofOffset_eq (h.le.trans hlater), ofOffset_eq hlater, hbetween]
  by_cases hlineFeed : '\n' ∈ between
  · -- a line feed between the two makes the line a later one
    left
    have hcount := List.count_pos_iff.mpr hlineFeed
    show (source.take offset).count '\n' + 1 < (source.take offset ++ between).count '\n' + 1
    rw [List.count_append]
    omega
  · right
    rw [List.count_append, List.count_eq_zero_of_not_mem hlineFeed,
      lastLine_append_of_not_mem hlineFeed, List.length_append]
    exact ⟨rfl, Int.ofNat_lt.mpr (by omega)⟩

/-- **Line and column locate an offset.** The line counts the line feeds before the offset; lines and
characters of the text counted off by the two give the text before the offset, so that they
determine it; both are at least one, the column at most one more than its line is long; and they
grow with the offset, the line first. -/
theorem ofOffset_locates (hoffset : offset ≤ source.length) :
    (ofOffset source offset).line = (source.take offset).count '\n' + 1
      ∧ (ofOffset source offset).front source = source.take offset
      ∧ (∀ other ≤ source.length, ofOffset source other = ofOffset source offset → other = offset)
      ∧ 1 ≤ (ofOffset source offset).line ∧ 1 ≤ (ofOffset source offset).column
      ∧ (∃ row, (lines source)[(ofOffset source offset).line - 1]? = some row
        ∧ (ofOffset source offset).column ≤ row.length + 1)
      ∧ ∀ later ≤ source.length, offset < later →
        (ofOffset source offset).Precedes (ofOffset source later) := by
  have heq := ofOffset_eq hoffset
  refine ⟨congrArg Position.line heq, front_ofOffset hoffset,
    fun other hother => ofOffset_inj hoffset hother, ?_, ?_, column_ofOffset_le hoffset,
    fun later hlater h => ofOffset_precedes h hlater⟩
  · rw [heq]
    exact Nat.le_add_left 1 _
  · rw [heq]
    show (1 : Int) ≤ ((lastLine (source.take offset)).length + 1 : Nat)
    omega

/-- The offset of a line feed right behind another: the line is empty, and its only place is the one
in front of the line feed. -/
theorem ofOffset_locates_empty_line :
    let source := "a\n\nb".toList
    2 ≤ source.length ∧ ofOffset source 2 = ⟨2, 1⟩ ∧ (ofOffset source 2).front source = ['a', '\n']
      ∧ (ofOffset source 2).Precedes (ofOffset source 3) := by
  intro source
  have hoffset : 2 ≤ source.length := by decide
  obtain ⟨-, hfront, -, -, -, -, hlater⟩ := ofOffset_locates hoffset
  exact ⟨hoffset, by decide, hfront, hlater 3 (by decide) (by decide)⟩

end Position

end Mustache
