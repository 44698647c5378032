import Mathlib.Data.List.Infix
import Mustache.Proofs.Lexer.Boundary
import Mustache.Proofs.Lexer.FreeContent
import Mustache.Proofs.Lexer.Progress

/-!
# What stands behind a tag

A tag ends in its closing delimiter, and no piece of it is settled by what comes later: whatever
stands behind a tag, the same tag is read (`Tag.reads_behind`). For a single piece the matter is
what stands **next** to it, up to the end of the tag (`Pattern.SettledBy`): most patterns have to see
one more character, and free content has to see the closing delimiter.

So a template can be cut in front of a tag, and the rounds up to there are the same
(`Rounds.cut`). Only the tag before the cut may change: where nothing but blanks is left in front of
the cut, the line of that tag ends there, and the tag may take the blanks with it. The delimiters
are the same either way.
-/

namespace Mustache

open Text Chars

/-! ## Pieces and what stands next to them -/

/-- **What stands next settles the piece**: the pattern takes it, whatever comes behind that. -/
def Pattern.SettledBy (pattern : Pattern) (taken next : Chars) : Prop :=
  ∀ left right, pattern.match? (taken ++ (next ++ left)) = some taken →
    pattern.match? (taken ++ (next ++ right)) = some taken

namespace Reads

/-- The texts of pieces, one after the other. -/
def texts (pieces : List (Pattern × Chars)) : Chars := pieces.flatMap Prod.snd

theorem texts_cons (piece : Pattern × Chars) (pieces : List (Pattern × Chars)) :
    texts (piece :: pieces) = piece.2 ++ texts pieces := rfl

variable {pieces : List (Pattern × Chars)} {left right : Chars}

/-- The pieces are the front of the text. -/
theorem eq_append {ahead rest : Chars} (h : Reads pieces ahead rest) :
    ahead = texts pieces ++ rest := by
  induction h with
  | nil => rfl
  | cons _ _ ih => rw [ih, texts_cons, List.append_assoc]

/-- The first piece is taken by its pattern, and the others stand behind it. -/
theorem exists_cons {pattern : Pattern} {taken ahead rest : Chars}
    (h : Reads ((pattern, taken) :: pieces) ahead rest) :
    ∃ others, ahead = taken ++ others ∧ pattern.match? (taken ++ others) = some taken
      ∧ Reads pieces others rest := by
  cases h with
  | cons hmatch h => exact ⟨_, rfl, hmatch, h⟩

/-- **Each piece is settled** by the pieces behind it. -/
def Settled : List (Pattern × Chars) → Prop
  | [] => True
  | (pattern, taken) :: others => pattern.SettledBy taken (texts others) ∧ Settled others

/-- **Pieces that are settled are read with anything behind.** -/
theorem behind (hsettled : Settled pieces) (h : Reads pieces (texts pieces ++ left) left) :
    Reads pieces (texts pieces ++ right) right := by
  generalize htext : texts pieces ++ left = text at h
  induction h with
  | nil rest => exact .nil right
  | @cons pattern taken ahead rest others hmatch h ih =>
    have hahead := h.eq_append
    rw [texts_cons, List.append_assoc, List.append_cancel_left_eq] at htext
    rw [hahead] at hmatch
    rw [texts_cons, List.append_assoc]
    exact .cons (hsettled.1 rest right hmatch) (ih hsettled.2 htext)

end Reads

namespace Pattern

variable {taken next : Chars}

theorem literal_settledBy (text : Chars) : (Pattern.literal text).SettledBy taken next := by
  intro left right h
  simp only [match?] at h
  split at h <;> cases h
  exact match?_literal _ _

/-- A run of a class is settled by the character behind it. -/
theorem takeWhile_settledBy {p : Char → Bool} (hnext : next ≠ []) (left right : Chars)
    (h : (taken ++ (next ++ left)).takeWhile p = taken) :
    (taken ++ (next ++ right)).takeWhile p = taken := by
  obtain ⟨c, rest, rfl⟩ := List.exists_cons_of_ne_nil hnext
  have hrun : ∀ d ∈ taken, p d = true := by
    rw [← h]
    exact fun d hd => List.mem_takeWhile_imp hd
  rw [List.takeWhile_append_of_pos hrun] at h ⊢
  rw [List.append_right_eq_self] at h ⊢
  have hc : ¬ p c = true := by
    intro hc
    rw [List.cons_append, List.takeWhile_cons, if_pos hc] at h
    cases h
  rw [List.cons_append, List.takeWhile_cons, if_neg hc]

theorem padding_settledBy (hnext : next ≠ []) : Pattern.padding.SettledBy taken next :=
  fun left right h => congrArg some (takeWhile_settledBy hnext left right (Option.some.inj h))

theorem optionalSigil_settledBy (hnext : next ≠ []) :
    Pattern.optionalSigil.SettledBy taken next := by
  intro left right h
  obtain ⟨c, rest, rfl⟩ := List.exists_cons_of_ne_nil hnext
  cases taken with
  | nil => exact h
  | cons d taken => exact h

theorem name_settledBy {sigil close : Chars} (hsigil : isFreeform sigil = false)
    (hnext : next ≠ []) : (Pattern.content sigil close).SettledBy taken next := by
  intro left right h
  simp only [match?, hsigil, Bool.false_eq_true, if_false] at h ⊢
  exact congrArg some (takeWhile_settledBy hnext left right (Option.some.inj h))

/-- A closing sigil is one character, and settled by the one that stands there. -/
theorem closeSigil_settledBy {sigil : Chars} (hsigil : (closingSigil sigil).length ≤ 1)
    (hnext : next ≠ []) : (Pattern.closeSigil sigil).SettledBy taken next := by
  intro left right h
  have hlength : (closingSigil sigil).length ≤ (taken ++ next).length := by
    have := List.length_pos_iff.mpr hnext
    rw [List.length_append]
    omega
  have hfront (behind : Chars) : closingSigil sigil <+: taken ++ (next ++ behind)
      ↔ closingSigil sigil <+: taken ++ next := by
    rw [← List.append_assoc]
    exact List.isPrefix_append_of_length hlength
  by_cases hstands : closingSigil sigil <+: taken ++ next
  · rw [match?_closeSigil ((hfront left).mpr hstands)] at h
    rw [match?_closeSigil ((hfront right).mpr hstands), h]
  · rw [match?_closeSigil_of_not fun hleft => hstands ((hfront left).mp hleft)] at h
    rw [match?_closeSigil_of_not fun hright => hstands ((hfront right).mp hright), h]

/-! ## Free content -/

section Free

variable {closing close : Chars}

/-- Whether a tag ends at the front is settled by as many characters as its end has. -/
theorem closes_append {text : Chars} (h : (closing ++ close).length ≤ text.length)
    (behind : Chars) : closes closing close (text ++ behind) = closes closing close text := by
  have hclose : close.length ≤ text.length := by
    rw [List.length_append] at h
    omega
  rw [Bool.eq_iff_iff, closes_eq_true_iff, closes_eq_true_iff,
    List.isPrefix_append_of_length hclose, List.isPrefix_append_of_length h]

/-- **What stands before the first end of a tag** is its free content. -/
theorem freeContent_of_not_closes {rest : Chars} (hends : closes closing close rest = true)
    (hearlier : ∀ n < taken.length, closes closing close ((taken ++ rest).drop n) = false) :
    freeContent closing close (taken ++ rest) = some taken := by
  induction taken with
  | nil => exact freeContent_of_closes hends
  | cons c taken ih =>
    have hfront : closes closing close (c :: (taken ++ rest)) = false :=
      hearlier 0 (Nat.zero_lt_succ _)
    have hothers : ∀ n < taken.length, closes closing close ((taken ++ rest).drop n) = false :=
      fun n hn => hearlier (n + 1) (Nat.succ_lt_succ hn)
    show freeContent closing close (c :: (taken ++ rest)) = _
    rw [freeContent_cons hfront, ih hothers, Option.map_some]

/-- **Free content is settled** by what stands up to the closing delimiter. -/
theorem freeContent_settled (hclosing : closing.length ≤ 1) (between left right : Chars)
    (h : freeContent closing close (taken ++ (between ++ close ++ left)) = some taken) :
    freeContent closing close (taken ++ (between ++ close ++ right)) = some taken := by
  refine freeContent_of_not_closes ?_ fun n hn => ?_
  · obtain ⟨rest, hrest, hends⟩ := closes_of_freeContent h
    cases List.append_cancel_left hrest
    by_cases hbetween : between = []
    · -- the delimiter stands there itself
      rw [hbetween]
      exact closes_eq_true_iff.mpr (.inl (List.prefix_append _ _))
    · have hlength : (closing ++ close).length ≤ (between ++ close).length := by
        have := List.length_pos_iff.mpr hbetween
        simp only [List.length_append]
        omega
      rw [closes_append hlength] at hends ⊢
      exact hends
  · have hnot := not_closes_of_freeContent h n hn
    have hlength : (closing ++ close).length ≤ (taken.drop n ++ (between ++ close)).length := by
      simp only [List.length_append, List.length_drop]
      omega
    have hdrop (behind : Chars) : (taken ++ (between ++ close ++ behind)).drop n
        = taken.drop n ++ (between ++ close) ++ behind := by
      rw [List.drop_append_of_le_length (Nat.le_of_lt hn)]
      simp only [List.append_assoc]
    rw [hdrop, closes_append hlength] at hnot ⊢
    exact hnot

end Free

/-- The content of a tag is settled by what stands up to its closing delimiter. -/
theorem content_settledBy {sigil close : Chars} (hsigil : (closingSigil sigil).length ≤ 1)
    (hclose : close ≠ []) (between : Chars) :
    (Pattern.content sigil close).SettledBy taken (between ++ close) := by
  by_cases hfree : isFreeform sigil = true
  · intro left right h
    simp only [match?, hfree, if_true] at h ⊢
    exact freeContent_settled hsigil between left right h
  · exact name_settledBy (Bool.eq_false_iff.mpr hfree)
      (List.append_ne_nil_of_right_ne_nil _ hclose)

/-- The closing form of a sigil that is taken is one character at most. -/
theorem length_closingSigil_le {sigil : Chars} (h : sigil = [] ∨ ∃ c ∈ sigils, sigil = [c]) :
    (closingSigil sigil).length ≤ 1 := by
  unfold closingSigil
  split
  · exact Nat.le_refl 1
  · rcases h with rfl | ⟨c, -, rfl⟩
    · exact Nat.zero_le 1
    · exact Nat.le_refl 1

end Pattern

namespace Tag

variable {tag : Tag}

theorem texts_pieces (tag : Tag) : Reads.texts tag.pieces = tag.core := by
  simp [Reads.texts, pieces, core]

/-- **A tag is read with anything behind it.** -/
theorem reads_behind (hclose : tag.closeTag ≠ []) {left : Chars}
    (h : Reads tag.pieces (tag.core ++ left) left) (right : Chars) :
    Reads tag.pieces (tag.core ++ right) right := by
  obtain ⟨_, -, -, hbehindOpen⟩ := h.exists_cons
  obtain ⟨_, -, hsigilTaken, -⟩ := hbehindOpen.exists_cons
  have hsigil := Pattern.length_closingSigil_le (Lexer.sigil_of_match hsigilTaken)
  have hends (between : Chars) : between ++ tag.closeTag ≠ [] :=
    List.append_ne_nil_of_right_ne_nil between hclose
  have hsettled : Reads.Settled tag.pieces := by
    refine ⟨Pattern.literal_settledBy _, Pattern.optionalSigil_settledBy ?_,
      Pattern.padding_settledBy ?_, ?_, Pattern.padding_settledBy ?_,
      Pattern.closeSigil_settledBy hsigil ?_, Pattern.literal_settledBy _, trivial⟩
    all_goals simp only [Reads.texts, List.flatMap_cons, List.flatMap_nil, List.append_nil]
    · simpa only [List.append_assoc] using hends (_ ++ _ ++ _ ++ _)
    · simpa only [List.append_assoc] using hends (_ ++ _ ++ _)
    · rw [← List.append_assoc]
      exact Pattern.content_settledBy hsigil hclose _
    · exact hends _
    · exact hclose
  rw [← texts_pieces] at h ⊢
  exact h.behind hsettled

end Tag

namespace Lexer

/-! ## Steps in front of a cut -/

variable {delimiters : Delimiters} {tail : Chars} {short start : Cursor}

/-- What both cursors have behind them is the same when the longer text is the shorter and more. -/
theorem Extends.of_source (hsource : start.source = short.source ++ tail)
    (hahead : start.ahead = short.ahead ++ tail) : Extends tail short start := by
  refine ⟨?_, hahead⟩
  rw [← start.before_append_ahead, ← short.before_append_ahead, hahead, List.append_assoc]
    at hsource
  exact List.reverse_injective (List.append_cancel_right hsource)

theorem Extends.source (h : Extends tail short start) : start.source = short.source ++ tail := by
  rw [← start.before_append_ahead, ← short.before_append_ahead, h.ahead, ← List.append_assoc]
  exact congrArg (fun behind => behind.reverse ++ short.ahead ++ tail) h.behind

/-- A tag opens in front of a cut where it does. -/
theorem Opening.cut {needle ahead text indent rest : Chars}
    (h : Opening needle (ahead ++ tail) text indent (rest ++ tail)) (hneedle : needle <+: rest) :
    Opening needle ahead text indent rest := by
  have hahead : ahead = text ++ (indent ++ rest) := by
    have hlong := h.ahead_eq
    rw [← List.append_assoc indent, ← List.append_assoc text] at hlong
    exact List.append_cancel_right hlong
  refine ⟨hahead, offsetOf?_eq_some_iff.mpr ⟨?_, fun n hn hstands => ?_⟩, h.blank, h.trimmed⟩
  · rwa [hahead, ← List.append_assoc, ← List.length_append, List.drop_left]
  · -- what stands in front of the cut stands in the longer text
    refine (offsetOf?_eq_some_iff.mp h.offset).2 n hn (hstands.trans ?_)
    exact List.IsPrefix.drop (List.prefix_append ahead tail) n

/-- **A tag in front of a cut is read** as it is. -/
theorem readTag_cut (h : Extends tail short start) {tag : Tag} {after : Cursor} {left : Chars}
    (hread : readTag delimiters start = .ok (tag, after)) (hafter : after.ahead = left ++ tail) :
    ∃ after', readTag delimiters short = .ok (tag, after') ∧ after'.ahead = left
      ∧ Extends tail after' after := by
  obtain ⟨hjust, hreads⟩ := reads_of_readTag hread
  obtain ⟨hahead, hsource, -⟩ := readTag_ahead hread
  have hshort : short.ahead = tag.core ++ left := by
    rw [hafter, h.ahead, ← List.append_assoc] at hahead
    exact List.append_cancel_right hahead
  have hclose : tag.closeTag ≠ [] := by
    rw [hjust.closeTag]
    exact delimiters.closing.nonempty
  rw [hahead, hafter] at hreads
  have hreads' := Tag.reads_behind hclose hreads left
  rw [← hshort] at hreads'
  have hjust' : tag.JustRead delimiters short :=
    { hjust with offset := by rw [hjust.offset, h.position] }
  obtain ⟨after', hread', hsource', hafter'⟩ := readTag_of_reads hjust' hreads'
  refine ⟨after', hread', hafter', .of_source ?_ ?_⟩
  · rw [hsource, hsource', h.source]
  · rw [hafter, hafter']

end Lexer

/-! ## The line of a tag in front of a cut -/

namespace Chars.BlankEnd

/-- The blank end of a line is settled where the line goes on in front of a cut. -/
theorem of_append {ending rest tail : Chars} (h : BlankEnd (ending ++ rest ++ tail) ending)
    (htail : tail ≠ []) : BlankEnd (ending ++ rest) ending := by
  generalize htext : ending ++ rest ++ tail = text at h
  cases h with
  | @lineFeed blank behind hblank =>
    rw [List.append_assoc]
    exact .lineFeed rest hblank
  | @returnLineFeed blank behind hblank =>
    rw [List.append_assoc]
    exact .returnLineFeed rest hblank
  | textEnd hblank =>
    rw [List.append_assoc, List.append_right_eq_self] at htext
    exact absurd (List.append_eq_nil_iff.mp htext).2 htail

/-- What ends a line in blanks does so before more text, unless it was the text that ended. -/
theorem append_or {text ending : Chars} (h : BlankEnd text ending) (tail : Chars) :
    BlankEnd (text ++ tail) ending ∨ ending = text ∧ ∀ c ∈ text, isBlank c = true := by
  cases h with
  | @lineFeed blank rest hblank =>
    rw [List.append_assoc]
    exact .inl (.lineFeed _ hblank)
  | @returnLineFeed blank rest hblank =>
    rw [List.append_assoc]
    exact .inl (.returnLineFeed _ hblank)
  | textEnd hblank => exact .inr ⟨rfl, hblank⟩

end Chars.BlankEnd

namespace Lexer

/-- What a tag takes of its line stands behind it. -/
theorem exists_settle_ahead (lineStart : Bool) (indent : Chars) (offset : Int) (tag : Tag)
    (after : Cursor) :
    ∃ taken, after.ahead = taken ++ (settle lineStart indent offset tag after).cursor.ahead := by
  rcases settle_cases lineStart indent offset tag after with
    ⟨ending, -, -, hmatch, hsettled⟩ | ⟨-, hsettled⟩
  · obtain ⟨rest, hrest⟩ := Pattern.match?_isPrefix hmatch
    rw [hsettled, Cursor.ahead_advance_of_append hrest.symm]
    exact ⟨ending, hrest.symm⟩
  · rw [hsettled]
    exact ⟨[], rfl⟩

/-- **A tag on its line in front of a cut** leaves what it leaves in the longer text, or it takes
what is left up to the cut, which is blank then. -/
theorem settle_cut {after after' : Cursor} (h : Extends tail after' after) (htail : tail ≠ [])
    {lineStart : Bool} {indent : Chars} {offset : Int} {tag : Tag} {left : Chars}
    (hleft : (settle lineStart indent offset tag after).cursor.ahead = left ++ tail) :
    Extends tail (settle lineStart indent offset tag after').cursor
        (settle lineStart indent offset tag after).cursor
      ∨ (settle lineStart indent offset tag after').cursor.ahead = []
        ∧ ∀ c ∈ left, isBlank c = true := by
  rcases settle_cases lineStart indent offset tag after with
    ⟨ending, rfl, hstands, hmatch, hsettled⟩ | ⟨hinline, hsettled⟩
  · -- the line ends in front of the cut, and does so in the shorter text
    rw [hsettled] at hleft ⊢
    obtain ⟨rest, hrest⟩ := Pattern.match?_isPrefix hmatch
    rw [Cursor.ahead_advance_of_append hrest.symm] at hleft
    rw [hleft, h.ahead, ← List.append_assoc] at hrest
    have hahead : after'.ahead = ending ++ left := (List.append_cancel_right hrest).symm
    have hend := Pattern.endOfLine_eq_some_iff.mp hmatch
    rw [h.ahead, hahead] at hend
    have hshort := Pattern.endOfLine_eq_some_iff.mpr (hend.of_append htail)
    rw [← hahead] at hshort
    rw [settle_alone hstands hshort]
    exact .inl (h.advance hahead)
  · rw [hsettled] at hleft ⊢
    have hahead : after'.ahead = left := by
      rw [h.ahead] at hleft
      exact List.append_cancel_right hleft
    rcases settle_cases lineStart indent offset tag after' with
      ⟨ending, rfl, hstands, hmatch, hshort⟩ | ⟨-, hshort⟩
    · rcases (Pattern.endOfLine_eq_some_iff.mp hmatch).append_or tail with
        hlong | ⟨rfl, hblank⟩
      · rw [← h.ahead] at hlong
        have hnone := hinline rfl hstands
        rw [Pattern.endOfLine_eq_some_iff.mpr hlong] at hnone
        cases hnone
      · rw [hshort, ← hahead]
        refine .inr ⟨?_, hblank⟩
        show (after'.advance after'.ahead.length).ahead = []
        rw [Cursor.ahead_advance, List.drop_length]
    · rw [hshort]
      exact .inl h

/-! ## Rounds in front of a cut -/

/-- The delimiters that a tag defines do not hang on where it stands. -/
theorem delimitersAfter_of_ok {tag : Tag} {defined : Delimiters}
    (h : delimitersAfter delimiters start tag = .ok defined) (tag' : Tag)
    (hkind : tag'.kind? = tag.kind?) (hcontent : tag'.content = tag.content) (short : Cursor) :
    delimitersAfter delimiters short tag' = .ok defined := by
  unfold delimitersAfter at h ⊢
  rw [hkind, hcontent]
  split at h
  next hkind =>
    rw [if_pos hkind]
    split at h
    · exact h
    · cases h
  next hkind =>
    rw [if_neg hkind]
    exact h

/-- **A tag in front of a cut opens** where it does. -/
theorem Opening.cut_of_readTag (h : Extends tail short start)
    {text indent rest left : Chars} {tag : Tag} {after : Cursor}
    (hopening : Opening delimiters.opening.text start.ahead text indent rest)
    (hread : readTag delimiters (start.advance (text ++ indent).length) = .ok (tag, after))
    (hafter : after.ahead = left ++ tail) :
    Opening delimiters.opening.text short.ahead text indent (tag.core ++ left) := by
  have hsplit := hopening.ahead_eq
  rw [← List.append_assoc] at hsplit
  obtain ⟨hcore, -, hopen, -, -⟩ := readTag_ahead hread
  rw [Cursor.ahead_advance_of_append hsplit, hafter, ← List.append_assoc] at hcore
  rw [h.ahead, hcore] at hopening
  refine hopening.cut ?_
  rw [← hopen]
  simp only [Tag.core, List.append_assoc]
  exact List.prefix_append _ _

/-- **A step with a tag in front of a cut** reads the tag as it is, and leaves the same
delimiters. -/
theorem tagStep_cut (h : Extends tail short start) (htail : tail ≠ [])
    {text indent rest left : Chars} {step : Step}
    (hopening : Opening delimiters.opening.text start.ahead text indent rest)
    (hstep : tagStep delimiters start text indent = .ok step)
    (hleft : step.cursor.ahead = left ++ tail) :
    ∃ step', next delimiters short = .ok step' ∧ step'.delimiters = step.delimiters
      ∧ (Extends tail step'.cursor step.cursor
        ∨ step'.cursor.ahead = [] ∧ ∀ c ∈ left, isBlank c = true) := by
  simp only [tagStep, bind_eq_ok, Prod.exists] at hstep
  obtain ⟨tag, after, hread, defined, hdefined, hstep⟩ := hstep
  cases hstep
  obtain ⟨taken, htaken⟩ := exists_settle_ahead (start.advance text.length).atLineStart indent
    (start.advance text.length).position tag after
  rw [show (settle _ indent _ tag after).cursor.ahead = _ from hleft, ← List.append_assoc]
    at htaken
  rw [← List.length_append] at hread
  have hopening' := hopening.cut_of_readTag h hread htaken
  have hsplit := hopening'.ahead_eq
  rw [← List.append_assoc] at hsplit
  obtain ⟨after', hread', -, hafter⟩ := readTag_cut (h.advance hsplit) hread htaken
  have hdefined' := delimitersAfter_of_ok hdefined tag rfl rfl short
  -- it takes of its line what it may
  have hline := settle_cut hafter htail hleft
  have htext := h.advance hopening'.ahead_eq
  rw [htext.atLineStart, htext.position] at hline
  generalize hsettled : settle (short.advance text.length).atLineStart indent
    (short.advance text.length).position tag after' = settled at hline
  refine ⟨⟨Token.ofText text short.position ++ settled.blank ++ [.tag settled.tag], defined,
    settled.cursor⟩, ?_, rfl, ?_⟩
  · rw [next_of_opening hopening']
    unfold tagStep
    rw [← List.length_append]
    simp only [bind, Except.bind, hread', hdefined', hsettled]
    rfl
  · rw [htext.atLineStart, htext.position]
    exact hline

/-- A step with a tag moves over more than blanks. -/
theorem exists_not_blank {text indent : Chars} {tag : Tag} {step : Step}
    (h : TagStep delimiters start text indent tag step) :
    ∃ c ∈ Token.writtenAll step.tokens, isBlank c = false := by
  obtain ⟨c, others, hopen, hc⟩ := delimiters.opening.solid.exists_cons
  refine ⟨c, ?_, Bool.eq_false_iff.mpr fun hblank => ?_⟩
  · obtain ⟨plain, htokens, -⟩ := h.tokens
    rw [htokens, Token.writtenAll_append, Token.writtenAll_singleton]
    simp [Token.written, Tag.written, Tag.core, h.openTag, hopen]
  · rw [isSpace_of_isBlank hblank] at hc
    cases hc

/-- **A template cut where a round begins** is cut into tokens alike up to there: the rounds in
front of the cut leave the same delimiters. Only the last tag may take what is left up to the cut,
when that is blank. -/
theorem Rounds.cut {source : Chars} {rounds : Nat} {tokens : List Token}
    (h : Rounds source rounds tokens delimiters start) {front left : Chars}
    (hsource : source = front ++ tail) (htail : tail ≠ []) (hleft : start.ahead = left ++ tail) :
    ∃ rounds' tokens' short, Rounds front rounds' tokens' delimiters short
      ∧ (Extends tail short start ∨ short.ahead = [] ∧ ∀ c ∈ left, isBlank c = true) := by
  induction h generalizing left with
  | none =>
    refine ⟨0, [], .start front, .none, .inl ⟨rfl, ?_⟩⟩
    exact hsource
  | @more rounds tokens delimiters start step h hne hstep ih =>
    have hahead := (next_ahead hstep).1
    rw [hleft, ← List.append_assoc] at hahead
    obtain ⟨rounds', tokens', short, hrounds, hshort⟩ := ih hahead
    rcases next_cases delimiters start with ⟨-, hnext⟩ | ⟨text, indent, rest, hopening, hnext⟩
    · -- without a tag nothing is left
      rw [hnext] at hstep
      cases hstep
      rw [ahead_textStep] at hleft
      exact absurd (List.append_eq_nil_iff.mp hleft.symm).2 htail
    · rw [hnext] at hstep
      obtain ⟨tag, htag⟩ := tagStep_eq_ok hopening hstep
      obtain ⟨c, hc, hsolid⟩ := exists_not_blank htag
      rcases hshort with hshort | ⟨-, hblank⟩
      · obtain ⟨step', hstep', hdelimiters, hend⟩ := tagStep_cut hshort htail hopening hstep hleft
        have hne' : short.ahead ≠ [] := by
          have hcut := hshort.ahead
          rw [hahead] at hcut
          rw [← List.append_cancel_right hcut]
          exact List.append_ne_nil_of_left_ne_nil (List.ne_nil_of_mem hc) _
        exact ⟨_, _, _, hdelimiters ▸ hrounds.more hne' hstep', hend⟩
      · -- what was left could not be blank in front of a tag
        rw [hblank c (List.mem_append_left _ hc)] at hsolid
        cases hsolid

end Lexer

end Mustache
