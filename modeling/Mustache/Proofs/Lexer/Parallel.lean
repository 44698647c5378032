import Mustache.Proofs.Lexer.Locality

/-!
# Two texts cut side by side

Two texts that are alike up to some point are cut alike up to there, and two that are alike from
some point on are cut alike behind it, except that the tokens of one stand further on than those of
the other. Both are one statement, of two cursors that run side by side (`Lexer.Parallel`): in front
of them stands the same text, behind that the two texts go on as they like, and the cursors stand a
fixed number of characters apart, each at the beginning of a line or neither.

**The step** (`next_parallel`): a step that stays in front of what differs is taken by both cursors,
and they run on side by side. Only the blank end of a line is looked for beyond the tag, so the
point it reaches must be shielded from what differs (`Shields`): nothing differs, or something that
is not white space stands in between.

**The run**: so are all rounds up to such a point (`Rounds.parallel`), and all steps from a point on
behind which nothing differs (`run_parallel`).
-/

namespace Mustache

open Text Chars

namespace Tag

/-- The tag, so many characters further on. -/
def shift (n : Int) (tag : Tag) : Tag := { tag with offset := tag.offset + n }

/-- **A change of tags that is no matter to the line**: the kind stays, and so does all that a tag
takes when it is alone on its line. -/
structure KeepsLine (change : Tag → Tag) : Prop where
  kind? : ∀ tag, (change tag).kind? = tag.kind?
  alone : ∀ tag before after, change (tag.alone before after) = (change tag).alone before after

theorem keepsLine_shift (n : Int) : KeepsLine (shift n) := ⟨fun _ => rfl, fun _ _ _ => rfl⟩

/-- The tag without what it takes of its line. -/
def inline (tag : Tag) : Tag :=
  { tag with spaceBefore := [], spaceAfter := [], standalone := false }

theorem inline_alone (tag : Tag) (before after : Chars) :
    (tag.alone before after).inline = tag.inline := rfl

theorem JustRead.inline_eq {delimiters : Delimiters} {start : Cursor} {tag : Tag}
    (h : tag.JustRead delimiters start) : tag.inline = tag := by
  unfold inline
  nth_rewrite 1 [← h.spaceBefore]
  rw [← h.spaceAfter, ← h.standalone]

end Tag

namespace Token

/-- The token, so many characters further on. -/
def shift (n : Int) : Token → Token
  | .text plain offset => .text plain (offset + n)
  | .tag piece => .tag (piece.shift n)

theorem shift_zero : shift 0 = id := by
  funext token
  cases token with
  | text plain offset => exact congrArg (Token.text plain) (Int.add_zero offset)
  | tag tag =>
    refine congrArg Token.tag ?_
    unfold Tag.shift
    rw [Int.add_zero]

theorem map_shift_zero (tokens : List Token) : tokens.map (shift 0) = tokens := by
  rw [shift_zero, List.map_id]

theorem map_shift_ofText (n : Int) (text : Chars) (offset : Int) :
    (ofText text offset).map (shift n) = ofText text (offset + n) := by
  unfold ofText
  split <;> rfl

end Token

/-! ## What keeps the ends of lines apart -/

namespace Chars.BlankEnd

variable {front tail ending : Chars}

/-- The blank end of a line is white space. -/
theorem isSpace {text : Chars} (h : BlankEnd text ending) : ∀ c ∈ ending, isSpace c = true := by
  intro c hc
  cases h with
  | lineFeed rest hblank =>
    rcases List.mem_append.mp hc with hc | hc
    · exact isSpace_of_isBlank (hblank c hc)
    · exact List.all_eq_true.mp (by decide : ['\n'].all Text.isSpace = true) c hc
  | returnLineFeed rest hblank =>
    rcases List.mem_append.mp hc with hc | hc
    · exact isSpace_of_isBlank (hblank c hc)
    · exact List.all_eq_true.mp (by decide : ['\r', '\n'].all Text.isSpace = true) c hc
  | textEnd hblank => exact isSpace_of_isBlank (hblank c hc)

/-- **A line that ends in front of something solid** ends there whatever comes behind. -/
theorem behind_solid (h : BlankEnd (front ++ tail) ending)
    (hsolid : ∃ c ∈ front, Text.isSpace c = false) (tail' : Chars) :
    BlankEnd (front ++ tail') ending := by
  obtain ⟨c, hc, hspace⟩ := hsolid
  obtain ⟨rest, hrest⟩ := Pattern.match?_isPrefix (Pattern.endOfLine_eq_some_iff.mpr h)
  rcases List.append_eq_append_iff.mp hrest with ⟨left, rfl, -⟩ | ⟨left, rfl, -⟩
  · have hshort : BlankEnd (ending ++ left) ending := by
      by_cases htail : tail = []
      · rwa [htail, List.append_nil] at h
      · exact h.of_append htail
    rcases hshort.append_or tail' with hlong | ⟨-, hblank⟩
    · exact hlong
    · rw [isSpace_of_isBlank (hblank c hc)] at hspace
      cases hspace
  · rw [h.isSpace c (List.mem_append_left _ hc)] at hspace
    cases hspace

end Chars.BlankEnd

namespace Lexer

/-- **A text shields the end of a line** from what differs behind it: nothing does, or the text is
not all white space. -/
def Shields (front tail tail' : Chars) : Prop :=
  tail' = tail ∨ ∃ c ∈ front, isSpace c = false

namespace Shields

variable {front tail tail' : Chars}

theorem append_left (h : Shields front tail tail') (more : Chars) :
    Shields (more ++ front) tail tail' := by
  rcases h with rfl | ⟨c, hc, hsolid⟩
  · exact .inl rfl
  · exact .inr ⟨c, List.mem_append_right _ hc, hsolid⟩

/-- An empty text shields only where nothing differs. -/
theorem eq_of_nil (h : Shields [] tail tail') : tail' = tail := by
  rcases h with rfl | ⟨c, hc, -⟩
  · rfl
  · cases hc

/-- The line ends behind both texts, and alike, or behind neither. -/
theorem endOfLine (h : Shields front tail tail') :
    Pattern.endOfLine.match? (front ++ tail') = Pattern.endOfLine.match? (front ++ tail) := by
  rcases h with rfl | hsolid
  · rfl
  · refine Option.ext fun ending => ?_
    rw [Pattern.endOfLine_eq_some_iff, Pattern.endOfLine_eq_some_iff]
    exact ⟨fun h => h.behind_solid hsolid tail, fun h => h.behind_solid hsolid tail'⟩

end Shields

/-! ## Cursors side by side -/

/-- **Cursors side by side**: the same text stands in front of them, each at the beginning of a line
or neither, and `other` stands `n` characters further on in its text. -/
structure Parallel (n : Int) (common tail tail' : Chars) (start other : Cursor) : Prop where
  ahead : start.ahead = common ++ tail
  ahead_other : other.ahead = common ++ tail'
  atLineStart : other.atLineStart = start.atLineStart
  position : (other.position : Int) = start.position + n

variable {delimiters : Delimiters} {n : Int} {common tail tail' left : Chars}
  {start other after : Cursor} {tag : Tag}

/-- Both cursors moved over the same text. -/
theorem Parallel.advance {taken : Chars} (h : Parallel n (taken ++ left) tail tail' start other) :
    Parallel n left tail tail' (start.advance taken.length) (other.advance taken.length) := by
  have hahead := h.ahead
  have hother := h.ahead_other
  rw [List.append_assoc] at hahead hother
  refine ⟨Cursor.ahead_advance_of_append hahead, Cursor.ahead_advance_of_append hother, ?_, ?_⟩
  · rw [Cursor.atLineStart_advance_of_append hahead, Cursor.atLineStart_advance_of_append hother,
      h.atLineStart]
  · rw [Cursor.position_advance_of_append hahead, Cursor.position_advance_of_append hother]
    have hposition := h.position
    omega

/-- Behind a shielded point both texts go on, or neither does. -/
theorem Parallel.ne_nil (h : Parallel n common tail tail' start other)
    (hshields : Shields common tail tail') (hne : start.ahead ≠ []) : other.ahead ≠ [] := by
  intro hnil
  rw [h.ahead_other] at hnil
  obtain ⟨rfl, rfl⟩ := List.append_eq_nil_iff.mp hnil
  rw [h.ahead, ← hshields.eq_of_nil] at hne
  exact hne rfl

/-- A tag that is read is what the cursor moves over. -/
theorem readTag_advance (h : readTag delimiters start = .ok (tag, after)) :
    after = start.advance tag.core.length := by
  obtain ⟨hahead, hsource, -⟩ := readTag_ahead h
  refine Cursor.eq_of_source ?_ (Cursor.ahead_advance_of_append hahead).symm
  rw [Cursor.source_advance, hsource]

/-- A tag opens in the other text where it does, when its opening delimiter stands in front of what
differs. -/
theorem Opening.change_tail {needle ahead text indent rest : Chars}
    (h : Opening needle (ahead ++ tail) text indent (rest ++ tail)) (hneedle : needle <+: rest)
    (tail' : Chars) : Opening needle (ahead ++ tail') text indent (rest ++ tail') :=
  (h.cut hneedle).append tail'

/-- **A tag is read by both cursors.** -/
theorem readTag_parallel (h : Parallel n (tag.core ++ left) tail tail' start other)
    (hread : readTag delimiters start = .ok (tag, after)) :
    ∃ after', readTag delimiters other = .ok (tag.shift n, after')
      ∧ Parallel n left tail tail' after after' := by
  obtain ⟨hjust, hreads⟩ := reads_of_readTag hread
  have hclose : tag.closeTag ≠ [] := by
    rw [hjust.closeTag]
    exact delimiters.closing.nonempty
  have hother := h.ahead_other
  rw [(readTag_ahead hread).1] at hreads
  rw [List.append_assoc] at hother
  have hreads' := Tag.reads_behind hclose hreads (left ++ tail')
  rw [← hother] at hreads'
  have hjust' : (tag.shift n).JustRead delimiters other :=
    ⟨hjust.openTag, hjust.closeTag,
      (congrArg (· + n) hjust.offset).trans h.position.symm, hjust.spaceBefore,
      hjust.spaceAfter, hjust.standalone⟩
  obtain ⟨after', hread', -⟩ := readTag_of_reads hjust' hreads'
  refine ⟨after', hread', ?_⟩
  rw [readTag_advance hread, readTag_advance hread']
  exact h.advance

/-- **A tag is settled on its line alike**, however it is changed, when the change is no matter to
the line. -/
theorem settle_parallel {change : Tag → Tag} (hchange : Tag.KeepsLine change) {front : Chars}
    {after' : Cursor} (h : Parallel n front tail tail' after after')
    (hshields : Shields left tail tail') {lineStart : Bool} {indent : Chars} (offset m : Int)
    (hleft : (settle lineStart indent offset tag after).cursor.ahead = left ++ tail) :
    let settled := settle lineStart indent offset tag after
    ∃ cursor, settle lineStart indent (offset + m) (change tag) after'
        = ⟨settled.blank.map (Token.shift m), change settled.tag, cursor⟩
      ∧ Parallel n left tail tail' settled.cursor cursor := by
  intro settled
  obtain ⟨taken, htaken⟩ := exists_settle_ahead lineStart indent offset tag after
  rw [hleft, h.ahead, ← List.append_assoc] at htaken
  obtain rfl := List.append_cancel_right htaken
  have hend := (hshields.append_left taken).endOfLine
  rw [← h.ahead, ← h.ahead_other] at hend
  rcases settle_cases lineStart indent offset tag after with
    ⟨ending, rfl, hstands, hmatch, hsettled⟩ | ⟨hinline, hsettled⟩
  · rw [← hchange.kind?] at hstands
    rw [hsettled] at hleft
    obtain ⟨rest, hrest⟩ := Pattern.match?_isPrefix hmatch
    -- what the tag takes is what it leaves out
    rw [Cursor.ahead_advance_of_append hrest.symm] at hleft
    rw [hleft, h.ahead, ← List.append_assoc] at hrest
    obtain rfl := List.append_cancel_right (List.append_cancel_right hrest)
    rw [show settled = _ from hsettled, settle_alone hstands (hend.trans hmatch)]
    exact ⟨_, by rw [hchange.alone]; rfl, h.advance⟩
  · have hinline' : lineStart = true → (change tag).kind?.any TagKind.standsAlone = true →
        Pattern.endOfLine.match? after'.ahead = none := by
      intro hstart hstands
      rw [hchange.kind?] at hstands
      exact hend.trans (hinline hstart hstands)
    rw [hsettled, h.ahead] at hleft
    rw [show settled = _ from hsettled, settle_inline hinline', Token.map_shift_ofText]
    rw [List.append_cancel_right hleft] at h
    exact ⟨_, rfl, h⟩

/-- **A step with a tag is taken by both cursors**, when both read the tag, and change it in no
matter of its line. -/
theorem tagStep_parallel {change : Tag → Tag} (hchange : Tag.KeepsLine change)
    {m : Int} {text indent rest front tail₀ tail₀' : Chars} {after' : Cursor} {step : Step}
    (h : Parallel m (text ++ rest) tail₀ tail₀' start other)
    (hread : readTag delimiters (start.advance (text.length + indent.length)) = .ok (tag, after))
    (hread' : readTag delimiters (other.advance (text.length + indent.length))
      = .ok (change tag, after'))
    (hafter : Parallel n front tail tail' after after')
    (hdelimiters : ∀ defined, delimitersAfter delimiters start tag = .ok defined →
      delimitersAfter delimiters other (change tag) = .ok defined)
    (hstep : tagStep delimiters start text indent = .ok step)
    (hleft : step.cursor.ahead = left ++ tail) (hshields : Shields left tail tail') :
    ∃ plain settled cursor, step.tokens = plain ++ [.tag settled]
      ∧ tagStep delimiters other text indent
        = .ok ⟨plain.map (Token.shift m) ++ [.tag (change settled)], step.delimiters, cursor⟩
      ∧ Parallel n left tail tail' step.cursor cursor := by
  simp only [tagStep, bind_eq_ok, Prod.exists] at hstep
  obtain ⟨tag', after'', hread'', defined, hdefined, hstep⟩ := hstep
  cases hread.symm.trans hread''
  cases hstep
  have hline := h.advance
  obtain ⟨cursor, hsettled, hcursor⟩ := settle_parallel hchange hafter hshields _ m hleft
  refine ⟨_, _, cursor, rfl, ?_, hcursor⟩
  unfold tagStep
  simp only [bind, Except.bind, hread', hdelimiters defined hdefined, hline.atLineStart,
    hline.position, hsettled]
  rw [List.map_append, Token.map_shift_ofText, ← h.position]
  rfl

/-- **The tag of a step** was read without its line, and then given what it takes of it. -/
theorem exists_readTag_of_tagStep {text indent : Chars} {step : Step}
    (h : tagStep delimiters start text indent = .ok step) :
    ∃ plain tag after, step.tokens = plain ++ [.tag tag]
      ∧ readTag delimiters (start.advance (text.length + indent.length)) = .ok (tag.inline, after)
      ∧ after.ahead = tag.spaceAfter ++ step.cursor.ahead := by
  simp only [tagStep, bind_eq_ok, Prod.exists] at h
  obtain ⟨tag, after, hread, defined, -, h⟩ := h
  cases h
  have hinline := (reads_of_readTag hread).1.inline_eq
  refine ⟨_, _, after, rfl, ?_⟩
  rcases settle_cases (start.advance text.length).atLineStart indent
      (start.advance text.length).position tag after with
    ⟨ending, -, -, hmatch, hsettled⟩ | ⟨-, hsettled⟩
  · obtain ⟨rest, hrest⟩ := Pattern.match?_isPrefix hmatch
    rw [hsettled]
    refine ⟨hread.trans (by rw [Tag.inline_alone, hinline]), ?_⟩
    show after.ahead = ending ++ (after.advance ending.length).ahead
    rw [Cursor.ahead_advance_of_append hrest.symm, hrest]
  · rw [hsettled, hinline]
    refine ⟨hread, ?_⟩
    rw [(reads_of_readTag hread).1.spaceAfter]
    rfl

/-- **A step in front of what differs** is taken by both cursors. -/
theorem next_parallel (h : Parallel n common tail tail' start other) {step : Step}
    (hstep : next delimiters start = .ok step) (hleft : step.cursor.ahead = left ++ tail)
    (hshields : Shields left tail tail') :
    ∃ cursor, next delimiters other
        = .ok ⟨step.tokens.map (Token.shift n), step.delimiters, cursor⟩
      ∧ Parallel n left tail tail' step.cursor cursor := by
  rcases next_cases delimiters start with ⟨hnone, hnext⟩ | ⟨text, indent, rest, hopening, hnext⟩
  · -- without a tag all is plain text, and nothing differs behind it
    rw [hnext] at hstep
    cases hstep
    rw [ahead_textStep] at hleft
    obtain ⟨rfl, rfl⟩ := List.append_eq_nil_iff.mp hleft.symm
    obtain rfl := hshields.eq_of_nil
    have hahead : other.ahead = start.ahead := h.ahead_other.trans h.ahead.symm
    have hend : Parallel n (start.ahead ++ []) [] [] start other := by
      rwa [h.ahead, List.append_nil, List.append_nil]
    rw [next_of_none (hahead ▸ hnone)]
    refine ⟨other.advance start.ahead.length, ?_, hend.advance⟩
    unfold textStep
    rw [Token.map_shift_ofText, ← h.position, hahead]
  · rw [hnext] at hstep
    obtain ⟨-, tag, after, -, hread, htaken⟩ := exists_readTag_of_tagStep hstep
    have hahead := hopening.ahead_eq
    rw [← List.append_assoc] at hahead
    rw [← List.length_append] at hread
    obtain ⟨hcore, -, hopen, -⟩ := readTag_ahead hread
    rw [Cursor.ahead_advance_of_append hahead, htaken, hleft, ← List.append_assoc tag.spaceAfter,
      ← List.append_assoc] at hcore
    rw [hcore, ← List.append_assoc, h.ahead] at hahead
    obtain rfl := List.append_cancel_right hahead
    rw [h.ahead, hcore] at hopening
    have hneedle : delimiters.opening.text <+: tag.inline.core ++ (tag.spaceAfter ++ left) := by
      rw [← hopen, Tag.core]
      simp only [List.append_assoc]
      exact List.prefix_append _ _
    have hopening' := hopening.change_tail hneedle tail'
    rw [← h.ahead_other] at hopening'
    obtain ⟨after', hread', hafter⟩ := readTag_parallel h.advance hread
    rw [List.append_assoc] at h
    rw [List.length_append] at hread hread'
    obtain ⟨plain, settled, cursor, htokens, hstep', hcursor⟩ := tagStep_parallel
      (Tag.keepsLine_shift n) h hread hread' hafter
      (fun defined hdefined => delimitersAfter_of_ok hdefined (tag.inline.shift n) rfl rfl other)
      hstep hleft hshields
    refine ⟨cursor, ?_, hcursor⟩
    rw [next_of_opening hopening', hstep', htokens, List.map_append]
    rfl

/-! ## All the way -/

/-- **The rounds in front of what differs** give the same tokens, and both cursors stand side by
side after them. -/
theorem Rounds.parallel {source : Chars} {rounds : Nat} {tokens : List Token}
    (h : Rounds source rounds tokens delimiters start) {front : Chars}
    (hsource : source = front ++ tail) (hleft : start.ahead = left ++ tail)
    (hshields : Shields left tail tail') :
    ∃ other, Rounds (front ++ tail') rounds tokens delimiters other
      ∧ Parallel 0 left tail tail' start other := by
  induction h generalizing left with
  | none =>
    obtain rfl : front = left := List.append_cancel_right (hsource.symm.trans hleft)
    exact ⟨_, .none, hsource, rfl, rfl, rfl⟩
  | @more rounds tokens delimiters start step h hne hstep ih =>
    have hahead := (next_ahead hstep).1
    rw [hleft, ← List.append_assoc] at hahead
    obtain ⟨other, hrounds, hparallel⟩ := ih hahead (hshields.append_left _)
    obtain ⟨cursor, hstep', hcursor⟩ := next_parallel hparallel hstep hleft hshields
    rw [Token.map_shift_zero] at hstep'
    exact ⟨cursor, hrounds.more (hparallel.ne_nil (hshields.append_left _) hne) hstep', hcursor⟩

/-- **A run behind which nothing differs** is the same, so many characters further on. -/
theorem run_parallel {tokens : List Token} (h : Parallel n start.ahead [] [] start other)
    (hrun : run delimiters start = .ok tokens) :
    run delimiters other = .ok (tokens.map (Token.shift n)) := by
  refine run_induction (P := fun delimiters start tokens => ∀ other,
      Parallel n start.ahead [] [] start other →
      run delimiters other = .ok (tokens.map (Token.shift n))) ?_ ?_ hrun other h
  · intro delimiters start hend other h
    refine run_nil delimiters ?_
    rw [h.ahead_other, hend, List.append_nil]
  · intro delimiters start step tokens hne hstep hrun ih other h
    obtain ⟨cursor, hstep', hcursor⟩ := next_parallel h hstep (List.append_nil _).symm (.inl rfl)
    have hne' : other.ahead ≠ [] := by
      rwa [h.ahead_other, List.append_nil]
    rw [run_of_next hne' hstep', ih cursor hcursor, List.map_append]
    rfl

end Lexer

end Mustache
