import Mustache.Proofs.Lexer.InEffect
import Mustache.Proofs.Lexer.Locality

/-!
# Where a template cannot be cut into tags

The lexer fails at a tag, and in three ways only (`Tag.FailsAt`). The closing delimiter does not
stand where the tag has to be closed; or the tag has free content, and the closing delimiter stands
nowhere behind it; or it is a delimiter tag whose content is not two words. Of all the patterns of a
tag, no other can fail where it is tried (`Pattern.match?_eq_none`).

**The law** (`tokenize_eq_error`): the fault names the pattern and the offset at which it failed,
with the line and the column of that offset. The template up to the tag can be cut into tokens, and
the tag begins with the opening delimiter that these leave in effect. The tokens need not be those
that the lexer had when it came to the tag, as the cut may leave an earlier tag alone on its line
(`Lexer.Rounds.cut`).
-/

namespace Mustache

open Text Chars

/-! ## Patterns that fail -/

/-- **A pattern fails at the front of a text**: the line does not end there in blanks, another text
stands there, or free content has no end. No other pattern fails. -/
inductive Pattern.Fails : Pattern → Chars → Prop
  | endOfLine {text : Chars} (h : ∀ ending, ¬ BlankEnd text ending) : Fails .endOfLine text
  | literal {wanted text : Chars} (h : ¬ wanted <+: text) : Fails (.literal wanted) text
  | content {sigil close text : Chars} (hfree : isFreeform sigil = true)
      (h : ∀ n, ¬ close <+: text.drop n) : Fails (.content sigil close) text

/-- **A pattern takes nothing** just where it fails. -/
theorem Pattern.match?_eq_none_iff {pattern : Pattern} {text : Chars} :
    pattern.match? text = none ↔ pattern.Fails text := by
  constructor
  · intro h
    cases pattern with
    | endOfLine =>
      refine .endOfLine fun ending hend => ?_
      rw [endOfLine_eq_some_iff.mpr hend] at h
      cases h
    | literal wanted =>
      refine .literal ?_
      rintro ⟨rest, rfl⟩
      rw [match?_literal] at h
      cases h
    | content sigil close =>
      simp only [match?] at h
      split at h
      next hfree =>
        refine .content hfree fun n hstands => ?_
        obtain ⟨taken, htaken⟩ := exists_freeContent_iff.mpr ⟨n, hstands⟩
        rw [h] at htaken
        cases htaken
      · cases h
    | optionalSigil =>
      cases text with
      | nil => cases h
      | cons c text =>
        simp only [match?] at h
        split at h <;> cases h
    | closeSigil sigil =>
      simp only [match?] at h
      split at h <;> cases h
    | indent | padding | nameRun | everything => cases h
  · intro h
    refine Option.eq_none_iff_forall_not_mem.mpr fun taken htaken => ?_
    cases h with
    | endOfLine h => exact h taken (endOfLine_eq_some_iff.mp htaken)
    | literal h =>
      simp only [match?] at htaken
      split at htaken
      next hstands => exact h (List.isPrefixOf_iff_prefix.mp hstands)
      · cases htaken
    | content hfree h =>
      simp only [match?, hfree, if_true] at htaken
      obtain ⟨n, hstands⟩ := exists_freeContent_iff.mp ⟨taken, htaken⟩
      exact h n hstands

/-- A scan that fails names its pattern, and where it was tried. -/
theorem Cursor.fails_of_scan {cursor : Cursor} {pattern : Pattern} {fault : Fault}
    (h : cursor.scan pattern = .error fault) :
    pattern.Fails cursor.ahead
      ∧ fault = .malformed (.unmatched cursor.position pattern.written) cursor.place := by
  cases hmatch : pattern.match? cursor.ahead with
  | some taken =>
    rw [scan_of_match hmatch] at h
    cases h
  | none =>
    rw [scan_of_no_match hmatch] at h
    cases h
    exact ⟨Pattern.match?_eq_none_iff.mp hmatch, rfl⟩

/-! ## Tags that fail -/

/-- **A tag fails at an offset**, by the pattern with this written form. The tag is given as far as
it is read. -/
inductive Tag.FailsAt (source : Chars) (tag : Tag) : Nat → Chars → Prop
  /-- The tag is read up to its closing delimiter, which does not stand there. -/
  | unclosed {offset : Nat}
      (hread : Reads (tag.pieces.take 6) (source.drop tag.offset.toNat) (source.drop offset))
      (hclose : ¬ tag.closeTag <+: source.drop offset) :
      FailsAt source tag offset (Pattern.literally tag.closeTag)
  /-- The tag is read up to its free content, and the closing delimiter stands nowhere behind. -/
  | endless {offset : Nat}
      (hread : Reads (tag.pieces.take 3) (source.drop tag.offset.toNat) (source.drop offset))
      (hsigil : tag.sigil = ['!'] ∨ tag.sigil = ['='])
      (hclose : ∀ place, offset ≤ place → ¬ tag.closeTag <+: source.drop place) :
      FailsAt source tag offset (Pattern.content tag.sigil tag.closeTag).written
  /-- The tag is read, and does not define a pair of delimiters. -/
  | definition {rest : Chars}
      (hread : Reads tag.pieces (source.drop tag.offset.toNat) rest)
      (hsigil : tag.sigil = ['='])
      (hwords : (words isSpace tag.content).length ≠ 2) :
      FailsAt source tag tag.offset.toNat Pattern.delimiterPairWritten

namespace Cursor

/-- The cursor behind a scan: in the same text, and further on. -/
structure Onward (start cursor : Cursor) : Prop where
  source : cursor.source = start.source
  position : start.position ≤ cursor.position

namespace Onward

variable {start cursor next : Cursor}

theorem refl (start : Cursor) : Onward start start := ⟨rfl, Nat.le_refl _⟩

theorem scan (h : Onward start cursor) {pattern : Pattern} {taken : Chars}
    (hscan : cursor.scan pattern = .ok (taken, next)) : Onward start next := by
  obtain ⟨-, rfl⟩ := match_of_scan hscan
  exact ⟨(source_advance _ _).trans h.source, h.position.trans (Nat.le_add_right _ _)⟩

theorem ahead (h : Onward start cursor) : cursor.ahead = start.source.drop cursor.position := by
  rw [cursor.ahead_eq_drop, h.source]

theorem position_le (h : Onward start cursor) : cursor.position ≤ start.source.length := by
  have := cursor.position_add_length
  rw [h.source] at this
  omega

theorem place (h : Onward start cursor) :
    cursor.place = .ofPosition (.ofOffset start.source cursor.position) := by
  unfold Cursor.place
  rw [h.source]

end Onward

end Cursor

namespace Lexer

variable {delimiters : Delimiters} {start : Cursor}

/-- **A tag that cannot be read** fails at its closing delimiter or at its free content. -/
theorem readTag_eq_error {fault : Fault} (hopen : delimiters.opening.text <+: start.ahead)
    (h : readTag delimiters start = .error fault) :
    ∃ (tag : Tag) (offset : Nat) (pattern : Chars), tag.FailsAt start.source offset pattern
      ∧ tag.openTag = delimiters.opening.text ∧ tag.closeTag = delimiters.closing.text
      ∧ tag.offset = start.position ∧ start.position ≤ offset ∧ offset ≤ start.source.length
      ∧ fault = .malformed (.unmatched offset pattern)
        (.ofPosition (.ofOffset start.source offset)) := by
  simp only [readTag, bind_eq_error, Prod.exists] at h
  obtain h₁ | ⟨openTag, c₁, h₁, h₂ | ⟨sigil, c₂, h₂, h₃ | ⟨before, c₃, h₃, h₄ | ⟨content, c₄, h₄,
    h₅ | ⟨behind, c₅, h₅, h₆ | ⟨closeSigil, c₆, h₆, h₇ | ⟨closeTag, c₇, h₇, h⟩⟩⟩⟩⟩⟩⟩ := h
  · cases (Cursor.fails_of_scan h₁).1 with
    | literal h => exact absurd hopen h
  · cases (Cursor.fails_of_scan h₂).1
  · cases (Cursor.fails_of_scan h₃).1
  · obtain ⟨hfails, hfault⟩ := Cursor.fails_of_scan h₄
    obtain rfl := Cursor.scan_literal h₁
    have honward := ((Cursor.Onward.refl start).scan h₁).scan h₂ |>.scan h₃
    rw [honward.place] at hfault
    cases hfails with
    | content hfree hclose =>
      let tag : Tag := ⟨delimiters.opening.text, sigil, before, [], [], [], delimiters.closing.text,
        [], [], false, start.position⟩
      refine ⟨tag, c₃.position, _, .endless ?_ ?_ fun place hplace hstands => ?_, rfl, rfl, rfl,
        honward.position, honward.position_le, hfault⟩
      · rw [← honward.ahead]
        show Reads _ (start.source.drop start.position) _
        rw [← start.ahead_eq_drop]
        exact .of_scan h₁ <| .of_scan h₂ <| .of_scan h₃ <| .nil _
      · simpa only [isFreeform, Bool.or_eq_true, decide_eq_true_eq] using hfree
      · refine hclose (place - c₃.position) ?_
        rw [honward.ahead, List.drop_drop, Nat.add_sub_cancel' hplace]
        exact hstands
  · cases (Cursor.fails_of_scan h₅).1
  · cases (Cursor.fails_of_scan h₆).1
  · obtain ⟨hfails, hfault⟩ := Cursor.fails_of_scan h₇
    obtain rfl := Cursor.scan_literal h₁
    have honward := ((Cursor.Onward.refl start).scan h₁).scan h₂ |>.scan h₃ |>.scan h₄
      |>.scan h₅ |>.scan h₆
    rw [honward.place] at hfault
    cases hfails with
    | literal hclose =>
      let tag : Tag := ⟨delimiters.opening.text, sigil, before, content, behind, closeSigil,
        delimiters.closing.text, [], [], false, start.position⟩
      rw [honward.ahead] at hclose
      refine ⟨tag, c₆.position, _, .unclosed ?_ hclose, rfl, rfl, rfl, honward.position,
        honward.position_le, hfault⟩
      rw [← honward.ahead]
      show Reads _ (start.source.drop start.position) _
      rw [← start.ahead_eq_drop]
      exact .of_scan h₁ <| .of_scan h₂ <| .of_scan h₃ <| .of_scan h₄ <| .of_scan h₅ <|
        .of_scan h₆ <| .nil _
  · cases h

/-- **A step that fails** fails at the tag that opens next. -/
theorem next_eq_error {fault : Fault} (h : next delimiters start = .error fault) :
    ∃ text indent rest, Opening delimiters.opening.text start.ahead text indent rest
      ∧ ∃ (tag : Tag) (offset : Nat) (pattern : Chars), tag.FailsAt start.source offset pattern
        ∧ tag.openTag = delimiters.opening.text ∧ tag.closeTag = delimiters.closing.text
        ∧ tag.offset = (start.before ++ text ++ indent).length
        ∧ tag.offset ≤ offset ∧ offset ≤ start.source.length
        ∧ fault = .malformed (.unmatched offset pattern)
          (.ofPosition (.ofOffset start.source offset)) := by
  rcases next_cases delimiters start with ⟨-, hnext⟩ | ⟨text, indent, rest, hopening, hnext⟩
  · rw [hnext] at h
    cases h
  · rw [hnext] at h
    have hsplit := hopening.ahead_eq
    rw [← List.append_assoc] at hsplit
    have hahead := Cursor.ahead_advance_of_append hsplit
    have hposition : (start.advance (text ++ indent).length).position
        = (start.before ++ text ++ indent).length := by
      rw [Cursor.position_advance_of_append hsplit, start.position_eq_length]
      simp only [List.length_append, Nat.add_assoc]
    refine ⟨text, indent, rest, hopening, ?_⟩
    simp only [tagStep, bind_eq_error, Prod.exists] at h
    obtain hread | ⟨tag, after, hread, hdefined | ⟨defined, -, h⟩⟩ := h
    · rw [← List.length_append] at hread
      have hopen := hopening.isPrefix
      rw [← hahead] at hopen
      obtain ⟨tag, offset, pattern, hfails, hopenTag, hcloseTag, hoffset, hle, hlength, hfault⟩ :=
        readTag_eq_error hopen hread
      rw [Cursor.source_advance] at hfails hlength hfault
      rw [hposition] at hoffset hle
      exact ⟨tag, offset, pattern, hfails, hopenTag, hcloseTag, hoffset, by omega, hlength, hfault⟩
    · rw [← List.length_append] at hread
      obtain ⟨hjust, hreads⟩ := reads_of_readTag hread
      obtain ⟨hkind, hwords, hfault⟩ := delimitersAfter_eq_error hdefined
      rw [Cursor.ahead_eq_drop, Cursor.source_advance, hposition] at hreads
      have hoffset := hjust.offset
      rw [hposition] at hoffset
      have hplace : tag.offset.toNat = (start.before ++ text ++ indent).length := by omega
      rw [← hplace] at hreads
      refine ⟨tag, tag.offset.toNat, _, .definition hreads (Tag.kind?_eq_some_iff.mp hkind) hwords,
        hjust.openTag, hjust.closeTag, hoffset, ?_, ?_, ?_⟩
      · omega
      · rw [hplace, ← start.before_append_ahead, hsplit]
        simp only [List.length_append]
        omega
      · rw [hfault]
        congr <;> omega
    · cases h

/-! ## In front of the tag -/

/-- **The delimiters after a step** are those in effect behind its tokens. -/
theorem next_inEffect {step : Step} (h : next delimiters start = .ok step) :
    Token.inEffect delimiters.texts step.tokens = step.delimiters.texts := by
  rcases next_eq_ok h with ⟨-, rfl⟩ | ⟨text, indent, tag, hstep⟩
  · exact Token.inEffect_plain _ fun tag => tag_not_mem_ofText tag _ _
  · obtain ⟨plain, htokens, hplain⟩ := hstep.tokens
    rw [htokens, Token.inEffect_append, Token.inEffect_plain _ hplain, Token.inEffect_tag,
      Token.inEffect_nil, hstep.pairAfter]

/-- **The delimiters after so many rounds** are those in effect behind the tokens so far. -/
theorem Rounds.inEffect {source : Chars} {rounds : Nat} {tokens : List Token}
    (h : Rounds source rounds tokens delimiters start) :
    Token.inEffect Delimiters.standard.texts tokens = delimiters.texts := by
  induction h with
  | none => rfl
  | more _ _ hstep ih => rw [Token.inEffect_append, ih, next_inEffect hstep]

/-- **The template up to a tag** can be cut into tokens, and they leave the delimiters of the tag
in effect. -/
theorem Rounds.tokenize_front {source : Chars} {rounds : Nat} {tokens : List Token}
    (h : Rounds source rounds tokens delimiters start) {text indent rest : Chars}
    (hopening : Opening delimiters.opening.text start.ahead text indent rest) :
    ∃ others, tokenize (start.before ++ text ++ indent) = .ok others
      ∧ Token.inEffect Delimiters.standard.texts others = delimiters.texts := by
  have hsplit := hopening.ahead_eq
  rw [← List.append_assoc] at hsplit
  have hsource : source = start.before ++ text ++ indent ++ rest := by
    rw [← h.source_eq, ← start.before_append_ahead, hsplit]
    simp only [List.append_assoc]
  obtain ⟨rounds', others, short, hrounds, hshort⟩ :=
    h.cut hsource (hopening.ne_nil delimiters.opening.solid) hsplit
  by_cases hend : short.ahead = []
  · exact ⟨others, tokenize_eq_ok_iff.mpr ⟨_, _, _, hrounds, hend⟩, hrounds.inEffect⟩
  · -- what is left up to the tag is plain text
    have hshort := (hshort.resolve_right fun h => hend h.1).ahead
    rw [hsplit] at hshort
    have hahead : short.ahead = text ++ indent := (List.append_cancel_right hshort).symm
    have hnone : offsetOf? delimiters.opening.text short.ahead = Option.none := by
      refine offsetOf?_eq_none_iff.mpr fun n hstands => ?_
      have hn : n < (text ++ indent).length := by
        refine Nat.lt_of_not_le fun hge => ?_
        rw [hahead, List.drop_of_length_le hge] at hstands
        exact delimiters.opening.nonempty (List.prefix_nil.mp hstands)
      rw [List.length_append] at hn
      refine (offsetOf?_eq_some_iff.mp hopening.offset).2 n hn (hstands.trans ?_)
      rw [hsplit, hahead]
      exact List.IsPrefix.drop (List.prefix_append _ _) n
    have hlast := hrounds.more hend (next_of_none hnone)
    exact ⟨_, tokenize_eq_ok_iff.mpr ⟨_, _, _, hlast, ahead_textStep _ _⟩, hlast.inEffect⟩

end Lexer

open Lexer

/-- **Faults of the lexer are localised.** The fault names an offset of the template, with its line
and column, and the written form of the pattern that failed there. There is a tag, at that offset or
before it, that fails so: its closing delimiter does not stand at the offset; or its content is
free, and the closing delimiter stands nowhere from the offset on; or it is a delimiter tag, its
content is not two words, and the offset is that of the tag. The template up to the tag is cut into
tokens, and the tag stands at its place between the delimiters that these leave in effect. -/
theorem tokenize_eq_error {source : Chars} {fault : Fault} (h : tokenize source = .error fault) :
    ∃ offset pattern, offset ≤ source.length
      ∧ fault = .malformed (.unmatched offset pattern) (.ofPosition
        ⟨(source.take offset).count '\n' + 1, ((lastLine (source.take offset)).length + 1 : Nat)⟩)
      ∧ ∃ (tag : Tag) (place : Nat) (tokens : List Token), tag.offset = place ∧ place ≤ offset
        ∧ tokenize (source.take place) = .ok tokens
        ∧ Token.inEffect Delimiters.standard.texts tokens = [tag.openTag, tag.closeTag]
        ∧ tag.openTag <+: source.drop place
        ∧ tag.FailsAt source offset pattern := by
  obtain ⟨rounds, tokens, delimiters, last, hrounds, -, hfault⟩ := tokenize_eq_error_iff.mp h
  obtain ⟨text, indent, rest, hopening, tag, offset, pattern, hfails, hopen, hclose, hplace, hle,
    hlength, rfl⟩ := next_eq_error hfault
  have hsource : source = last.before ++ text ++ indent ++ rest := by
    rw [← hrounds.source_eq, ← last.before_append_ahead, hopening.ahead_eq]
    simp only [List.append_assoc]
  rw [hrounds.source_eq] at hfails hlength ⊢
  obtain ⟨others, hothers, hinEffect⟩ := hrounds.tokenize_front hopening
  refine ⟨offset, pattern, hlength, ?_, tag, (last.before ++ text ++ indent).length, others, hplace,
    ?_, ?_, ?_, ?_, hfails⟩
  · rw [Position.ofOffset_eq hlength]
  · omega
  · rw [hsource, List.take_left]
    exact hothers
  · rw [hinEffect, hopen, hclose]
    rfl
  · rw [hsource, List.drop_left, hopen]
    exact hopening.isPrefix

/-- A tag that is not closed, behind a block: up to it the block is alone on its line, and takes the
blanks that stood between. -/
theorem tokenize_eq_error_behind_blanks :
    let source : Chars := "\x7b\x7b#a\x7d\x7d  \x7b\x7bb".toList
    let block : Tag :=
      ⟨['{', '{'], ['#'], [], ['a'], [], [], ['}', '}'], [], [' ', ' '], true, 0⟩
    tokenize source = .error (.malformed (.unmatched 11 (Pattern.literally ['}', '}']))
        (.ofPosition ⟨1, 12⟩))
      ∧ tokenize (source.take 8) = .ok [.tag block]
      ∧ ∃ (tag : Tag) (place : Nat) (tokens : List Token), place ≤ 11
        ∧ tokenize (source.take place) = .ok tokens
        ∧ Token.inEffect Delimiters.standard.texts tokens = [tag.openTag, tag.closeTag]
        ∧ tag.openTag <+: source.drop place
        ∧ tag.FailsAt source 11 (Pattern.literally ['}', '}']) := by
  intro source block
  have herror : tokenize source
      = .error (.malformed (.unmatched 11 (Pattern.literally ['}', '}']))
        (.ofPosition ⟨1, 12⟩)) := by
    rw [tokenize_eq_runWithin]
    decide +kernel
  have hfront : tokenize (source.take 8) = .ok [.tag block] := by
    rw [tokenize_eq_runWithin]
    decide +kernel
  obtain ⟨offset, pattern, -, hfault, tag, place, tokens, -, hle, htokens, hpair, hopen, hfails⟩ :=
    tokenize_eq_error herror
  cases hfault
  exact ⟨herror, hfront, tag, place, tokens, hle, htokens, hpair, hopen, hfails⟩

end Mustache
