import Mustache.Proofs.Lexer.Tiling
import Mustache.Proofs.Text.Place

/-!
# What a step with a tag does

`TagStep` says all there is to know of a step that reads a tag: where in the text ahead the tag
opens, what the tag was cut from, when it is alone on its line and what it takes with it then, and
which delimiters hold after it. A step that succeeds is such a step, or it takes all that is ahead
as plain text (`next_eq_ok`). What a run keeps is shown from these two cases, without a look at how
a step goes about it.

A step is told of by the text before the cursor (`Cursor.before`), so that what it does can be said
of the template as a whole: up to the tag (`TagStep.take_offset`), and behind it
(`TagStep.drop_core`).
-/

namespace Mustache

open Text Chars

/-- The text before the cursor. -/
def Cursor.before (cursor : Cursor) : Chars := cursor.behind.reverse

namespace Cursor

variable {cursor : Cursor}

@[simp] theorem before_start (source : Chars) : (start source).before = [] := rfl

theorem before_append_ahead (cursor : Cursor) : cursor.before ++ cursor.ahead = cursor.source := rfl

theorem position_eq_length (cursor : Cursor) : cursor.position = cursor.before.length := by
  rw [cursor.position_eq, before, List.length_reverse]

theorem before_advance_of_append {taken rest : Chars} (h : cursor.ahead = taken ++ rest) :
    (cursor.advance taken.length).before = cursor.before ++ taken := by
  show ((cursor.ahead.take taken.length).reverse ++ cursor.behind).reverse = _
  rw [h, List.take_left, List.reverse_append, List.reverse_reverse]
  rfl

/-- **A line begins at the cursor** when one begins after the text before it. -/
theorem atLineStart_eq (cursor : Cursor) :
    cursor.atLineStart = lineStartAfter true cursor.before := by
  unfold atLineStart before
  cases cursor.behind with
  | nil => rfl
  | cons c behind => rw [List.reverse_cons, lineStartAfter_concat]

/-- What lies ahead is the text from the cursor on. -/
theorem ahead_eq_drop (cursor : Cursor) : cursor.ahead = cursor.source.drop cursor.position := by
  rw [position_eq_length, ← before_append_ahead, List.drop_left]

end Cursor

namespace Lexer

variable {delimiters : Delimiters} {start : Cursor}

/-- **A step with a tag.** In the text ahead stand plain text, blanks and then the tag, whose
opening delimiter stands nowhere before. The tag is alone on its line just when its kind may be,
a line begins where the blanks do, and behind the tag the line ends in blanks. -/
structure TagStep (delimiters : Delimiters) (start : Cursor) (text indent : Chars) (tag : Tag)
    (step : Step) : Prop where
  opening : Opening delimiters.opening.text start.ahead text indent
    (tag.core ++ (tag.spaceAfter ++ step.cursor.ahead))
  openTag : tag.openTag = delimiters.opening.text
  closeTag : tag.closeTag = delimiters.closing.text
  known : tag.kind?.isSome = true
  offset : tag.offset = (start.position + (text.length + indent.length) : Nat)
  tokens : ∃ plain, step.tokens = plain ++ [.tag tag] ∧ ∀ other, .tag other ∉ plain
  standalone_iff : tag.standalone = true ↔ tag.kind?.any TagKind.standsAlone = true
    ∧ lineStartAfter true (start.before ++ text) = true
    ∧ ∃ ending, BlankEnd (tag.spaceAfter ++ step.cursor.ahead) ending
  alone : tag.standalone = true → tag.spaceBefore = indent
    ∧ BlankEnd (tag.spaceAfter ++ step.cursor.ahead) tag.spaceAfter
  inline : tag.standalone = false → tag.spaceBefore = [] ∧ tag.spaceAfter = []
  delimiters : delimitersAfter delimiters start tag = .ok step.delimiters
  source : step.cursor.source = start.source

/-- A tag read ends in the closing delimiter, and is not alone on its line yet. -/
theorem readTag_closeTag {after : Cursor} {tag : Tag}
    (h : readTag delimiters start = .ok (tag, after)) :
    tag.closeTag = delimiters.closing.text ∧ tag.standalone = false := by
  simp only [readTag, bind_eq_ok, Prod.exists] at h
  obtain ⟨_, _, -, _, _, -, _, _, -, _, _, -, _, _, -, _, _, -, closeTag, _, hscan, h⟩ := h
  cases h
  exact ⟨Cursor.scan_literal hscan, rfl⟩

theorem tag_not_mem_ofText (tag : Tag) (text : Chars) (offset : Int) :
    Token.tag tag ∉ Token.ofText text offset := by
  unfold Token.ofText
  split <;> simp

/-- **What a step that reads a tag does.** -/
theorem tagStep_eq_ok {text indent rest : Chars} {step : Step}
    (hopening : Opening delimiters.opening.text start.ahead text indent rest)
    (h : tagStep delimiters start text indent = .ok step) :
    ∃ tag, TagStep delimiters start text indent tag step := by
  simp only [tagStep, bind_eq_ok, Prod.exists] at h
  obtain ⟨tag, after, hread, next, hnext, h⟩ := h
  cases h
  obtain ⟨hcore, hsource, hopen, hbefore, hafter⟩ := readTag_ahead hread
  obtain ⟨hclose, hinlineYet⟩ := readTag_closeTag hread
  have hknown : tag.kind?.isSome = true := readTag_kind? hread
  have hsplit := hopening.ahead_eq
  rw [← List.append_assoc] at hsplit
  rw [← List.length_append, Cursor.ahead_advance_of_append hsplit] at hcore
  have hoffset : tag.offset = (start.position + (text.length + indent.length) : Nat) := by
    rw [readTag_offset hread, ← List.length_append, Cursor.position_advance_of_append hsplit]
  have hstart : (start.advance text.length).atLineStart
      = lineStartAfter true (start.before ++ text) := by
    rw [Cursor.atLineStart_eq, Cursor.before_advance_of_append hopening.ahead_eq]
  rw [Cursor.source_advance] at hsource
  rcases settle_cases (start.advance text.length).atLineStart indent
      (start.advance text.length).position tag after with
    ⟨ending, hline, hstands, hmatch, hsettled⟩ | ⟨hinline, hsettled⟩
  · have hend := Pattern.endOfLine_eq_some_iff.mp hmatch
    obtain ⟨left, hleft⟩ := Pattern.match?_isPrefix hmatch
    have hahead : ending ++ (after.advance ending.length).ahead = after.ahead := by
      rw [Cursor.ahead_advance_of_append hleft.symm, hleft]
    rw [hsettled]
    refine ⟨tag.alone indent ending, ?_, hopen, hclose, hknown, hoffset, ?_, ?_, ?_, ?_,
      hnext, ?_⟩
    · show Opening _ _ text indent (tag.core ++ (ending ++ (after.advance ending.length).ahead))
      rw [hahead, ← hcore]
      exact hopening
    · refine ⟨_, rfl, fun other hmem => ?_⟩
      rw [List.append_nil] at hmem
      exact tag_not_mem_ofText other _ _ hmem
    · show true = true ↔ tag.kind?.any TagKind.standsAlone = true
        ∧ _ ∧ ∃ other, BlankEnd (ending ++ (after.advance ending.length).ahead) other
      rw [hahead, ← hstart]
      exact iff_of_true rfl ⟨hstands, hline, ending, hend⟩
    · intro _
      show indent = indent ∧ BlankEnd (ending ++ (after.advance ending.length).ahead) ending
      rw [hahead]
      exact ⟨rfl, hend⟩
    · intro hnotAlone
      exact absurd hnotAlone.symm Bool.false_ne_true
    · show (after.advance ending.length).source = start.source
      rw [Cursor.source_advance, hsource]
  · have hahead : tag.spaceAfter ++ after.ahead = after.ahead := by rw [hafter, List.nil_append]
    rw [hsettled]
    refine ⟨tag, ?_, hopen, hclose, hknown, hoffset, ?_, ?_, ?_,
      fun _ => ⟨hbefore, hafter⟩, hnext, ?_⟩
    · show Opening _ _ text indent (tag.core ++ (tag.spaceAfter ++ after.ahead))
      rw [hahead, ← hcore]
      exact hopening
    · refine ⟨_, rfl, fun other hmem => ?_⟩
      rcases List.mem_append.mp hmem with hmem | hmem
      · exact tag_not_mem_ofText other _ _ hmem
      · exact tag_not_mem_ofText other _ _ hmem
    · show _ ↔ _ ∧ _ ∧ ∃ ending, BlankEnd (tag.spaceAfter ++ after.ahead) ending
      rw [hahead, hinlineYet]
      refine iff_of_false Bool.false_ne_true ?_
      rintro ⟨hstands, hline, ending, hend⟩
      have hnone := hinline (hstart.trans hline) hstands
      rw [Pattern.endOfLine_eq_some_iff.mpr hend] at hnone
      cases hnone
    · intro hstandalone
      rw [hinlineYet] at hstandalone
      cases hstandalone
    · exact hsource

/-- **A step that succeeds** reads a tag, or takes all that is ahead as plain text where no opening
delimiter stands in it. -/
theorem next_eq_ok {step : Step} (h : next delimiters start = .ok step) :
    (offsetOf? delimiters.opening.text start.ahead = none ∧ step = textStep delimiters start)
      ∨ ∃ text indent tag, TagStep delimiters start text indent tag step := by
  rcases next_cases delimiters start with ⟨hnone, hnext⟩ | ⟨text, indent, rest, hopening, hnext⟩
  · rw [hnext] at h
    cases h
    exact .inl ⟨hnone, rfl⟩
  · rw [hnext] at h
    exact .inr ⟨text, indent, tagStep_eq_ok hopening h⟩

theorem ahead_textStep (delimiters : Delimiters) (start : Cursor) :
    (textStep delimiters start).cursor.ahead = [] := by
  show (start.advance start.ahead.length).ahead = []
  rw [Cursor.ahead_advance, List.drop_length]

namespace TagStep

variable {text indent : Chars} {tag : Tag} {step : Step}

/-- The template, as the step cuts it. -/
theorem source_eq (h : TagStep delimiters start text indent tag step) :
    start.source = (start.before ++ text ++ indent)
      ++ (tag.core ++ (tag.spaceAfter ++ step.cursor.ahead)) := by
  rw [← start.before_append_ahead, h.opening.ahead_eq]
  simp only [List.append_assoc]

theorem offset_toNat (h : TagStep delimiters start text indent tag step) :
    tag.offset.toNat = (start.before ++ text ++ indent).length := by
  rw [h.offset, Int.toNat_natCast, start.position_eq_length]
  simp only [List.length_append]
  omega

/-- The template up to the tag. -/
theorem take_offset (h : TagStep delimiters start text indent tag step) :
    start.source.take tag.offset.toNat = start.before ++ text ++ indent := by
  rw [h.offset_toNat, h.source_eq, List.take_left]

/-- The template behind the tag. -/
theorem drop_core (h : TagStep delimiters start text indent tag step) :
    start.source.drop (tag.offset.toNat + tag.core.length)
      = tag.spaceAfter ++ step.cursor.ahead := by
  rw [h.offset_toNat, h.source_eq, ← List.drop_drop, List.drop_left, List.drop_left]

/-- The text before the cursor behind the tag. -/
theorem before_cursor (h : TagStep delimiters start text indent tag step) :
    step.cursor.before = start.before ++ text ++ indent ++ tag.core ++ tag.spaceAfter := by
  have hsource := h.source_eq
  rw [← h.source, ← step.cursor.before_append_ahead, ← List.append_assoc,
    ← List.append_assoc] at hsource
  exact List.append_cancel_right hsource

/-- The cursor behind the tag stands where the tag and what it takes of its line end. -/
theorem position_cursor (h : TagStep delimiters start text indent tag step) :
    step.cursor.position = tag.offset.toNat + tag.core.length + tag.spaceAfter.length := by
  rw [step.cursor.position_eq_length, h.before_cursor, h.offset_toNat, List.length_append,
    List.length_append]

/-- The only tag of the step is the tag it reads. -/
theorem eq_of_mem (h : TagStep delimiters start text indent tag step) {other : Tag}
    (hmem : .tag other ∈ step.tokens) : other = tag := by
  obtain ⟨plain, htokens, hplain⟩ := h.tokens
  rw [htokens] at hmem
  rcases List.mem_append.mp hmem with hmem | hmem
  · exact absurd hmem (hplain other)
  · cases List.mem_singleton.mp hmem
    rfl

end TagStep

end Lexer

end Mustache
