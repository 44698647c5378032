import Mustache.Proofs.Lexer.Tiling
import Mustache.Proofs.Text.Place

/-!
# Templates one behind the other

Between two lines nothing of a template reaches across: a tag, an indentation and the blank end of a
line all end before a line feed or with it. So when a text ends in a line feed, and more text comes
behind it, a scan that succeeds takes what it took (`Pattern.IsLocal`), and so does a step that
reads a tag (`tagStep_append`). Only the plain text at the end of the first text grows, by the plain
text that the second begins with (`next_behind_line`).

`run_append`: the tokens of two texts, one behind the other, are the tokens of both joined
(`Token.Joined`), as long as the first changes no delimiters.
-/

namespace Mustache

open Text Chars

/-! ## Texts that end a line -/

/-- **The text ends in a line feed.** -/
def Chars.EndsLine (text : Chars) : Prop := ∃ init, text = init ++ ['\n']

namespace Chars.EndsLine

variable {text left right : Chars}

theorem ne_nil (h : EndsLine text) : text ≠ [] := by
  obtain ⟨init, rfl⟩ := h
  exact List.append_ne_nil_of_right_ne_nil _ (List.cons_ne_nil _ _)

/-- The end of a text that ends a line ends it too. -/
theorem of_append (h : EndsLine (left ++ right)) (hright : right ≠ []) : EndsLine right := by
  obtain ⟨init, hinit⟩ := h
  rcases List.eq_nil_or_concat right with rfl | ⟨last, c, rfl⟩
  · exact absurd rfl hright
  · rw [List.concat_eq_append, ← List.append_assoc] at hinit
    obtain ⟨-, hc⟩ := List.append_inj' hinit rfl
    exact ⟨last, by rw [List.concat_eq_append, hc]⟩

/-- Behind a part of one line, the text goes on to the end of a line. -/
theorem of_not_mem (h : EndsLine (left ++ right)) (hleft : '\n' ∉ left) : EndsLine right := by
  refine h.of_append ?_
  rintro rfl
  obtain ⟨init, hinit⟩ := h
  rw [List.append_nil] at hinit
  exact hleft (hinit ▸ List.mem_append_right _ List.mem_cons_self)

theorem lineStartAfter (h : EndsLine text) (lineStart : Bool) :
    lineStartAfter lineStart text = true := by
  obtain ⟨init, rfl⟩ := h
  exact lineStartAfter_concat lineStart init '\n'

/-- A text after which a line begins ends a line, unless it is empty. -/
theorem of_lineStartAfter {lineStart : Bool} (h : Chars.lineStartAfter lineStart text = true)
    (hne : text ≠ []) : EndsLine text := by
  rcases List.eq_nil_or_concat text with rfl | ⟨init, c, rfl⟩
  · exact absurd rfl hne
  · rw [List.concat_eq_append, lineStartAfter_concat, beq_iff_eq] at h
    exact ⟨init, by rw [List.concat_eq_append, h]⟩

end Chars.EndsLine

/-- A run inside a line ends before the line does. -/
theorem Chars.takeWhile_append_lineFeed {p : Char → Bool} (hp : p '\n' = false)
    (left right : Chars) : (left ++ '\n' :: right).takeWhile p = left.takeWhile p := by
  induction left with
  | nil => rw [List.nil_append, List.takeWhile_cons, hp, if_neg Bool.false_ne_true]; rfl
  | cons c left ih => rw [List.cons_append, List.takeWhile_cons, List.takeWhile_cons, ih]

/-! ## Scans that end before a line does -/

/-- **A pattern that nothing behind the line matters to**: what it takes of a text that ends a line,
it takes when more text follows, and it leaves the end of the line. -/
def Pattern.IsLocal (pattern : Pattern) : Prop :=
  ∀ line taken tail, EndsLine line → pattern.match? line = some taken →
    pattern.match? (line ++ tail) = some taken ∧ ∃ rest, line = taken ++ rest ∧ EndsLine rest

namespace Pattern

/-- A pattern is local when it is matched alike with more text behind a line, and takes no line
feed. -/
theorem IsLocal.of_match_eq {pattern : Pattern}
    (hmatch : ∀ init tail, pattern.match? (init ++ '\n' :: tail) = pattern.match? (init ++ ['\n']))
    (hinLine : pattern.InLine) : pattern.IsLocal := by
  intro line taken tail hline h
  obtain ⟨rest, hrest⟩ := match?_isPrefix h
  refine ⟨?_, rest, hrest.symm, (hrest ▸ hline).of_not_mem (hinLine line taken h)⟩
  obtain ⟨init, rfl⟩ := hline
  rw [List.append_assoc]
  exact (hmatch init tail).trans h

theorem literal_isLocal {literal : Chars} (h : ∀ c ∈ literal, isSpace c = false) :
    (Pattern.literal literal).IsLocal := by
  refine IsLocal.of_match_eq (fun init tail => ?_) (Lexer.literal_inLine h)
  simp only [match?, isPrefixOf_append_space h isSpace_lineFeed]

theorem closeSigil_isLocal {sigil : Chars} (h : ∀ c ∈ closingSigil sigil, isSpace c = false) :
    (Pattern.closeSigil sigil).IsLocal := by
  refine IsLocal.of_match_eq (fun init tail => ?_) (Lexer.closeSigil_inLine h)
  simp only [match?, isPrefixOf_append_space h isSpace_lineFeed]

theorem padding_isLocal : Pattern.padding.IsLocal := by
  refine IsLocal.of_match_eq (fun init tail => ?_) Lexer.padding_inLine
  simp only [match?]
  rw [takeWhile_append_lineFeed (by decide), takeWhile_append_lineFeed (by decide)]

theorem optionalSigil_isLocal : Pattern.optionalSigil.IsLocal := by
  refine IsLocal.of_match_eq (fun init tail => ?_) Lexer.optionalSigil_inLine
  cases init <;> rfl

/-- Free content may hold line feeds, but the end of the tag stands behind it. -/
theorem content_isLocal {sigil : Chars} {close : Delimiter}
    (hclosing : ∀ c ∈ closingSigil sigil, isSpace c = false) :
    (Pattern.content sigil close.text).IsLocal := by
  by_cases hfree : isFreeform sigil = true
  · intro line taken tail hline h
    simp only [match?, hfree, if_true] at h ⊢
    obtain ⟨rest, hrest, hcloses⟩ := closes_of_freeContent h
    refine ⟨?_, rest, hrest, (hrest ▸ hline).of_append ?_⟩
    · obtain ⟨init, rfl⟩ := hline
      rw [freeContent_append_space hclosing close.solid isSpace_lineFeed init [],
        freeContent_nil hclosing close.solid, Option.map_none, Option.or_none] at h
      rw [List.append_assoc]
      show freeContent _ _ (init ++ '\n' :: tail) = _
      rw [freeContent_append_space hclosing close.solid isSpace_lineFeed, h, Option.some_or]
    · rintro rfl
      rw [closes, close.solid.isPrefixOf_nil,
        (Solid.append hclosing close.solid).isPrefixOf_nil] at hcloses
      cases hcloses
  · have hfree : isFreeform sigil = false := Bool.eq_false_iff.mpr hfree
    refine IsLocal.of_match_eq (fun init tail => ?_) (Lexer.content_inLine hfree)
    simp only [match?, hfree, Bool.false_eq_true, if_false]
    rw [takeWhile_append_lineFeed (by decide), takeWhile_append_lineFeed (by decide)]

/-- What ends a line is settled before more text follows. -/
theorem lineEnd?_append {line : Chars} (hline : EndsLine line) (tail : Chars) :
    lineEnd? (line ++ tail) = lineEnd? line := by
  obtain ⟨init, rfl⟩ := hline
  match init with
  | [] => rfl
  | [c] =>
    by_cases hc : c = '\r'
    · subst hc
      rfl
    · by_cases hc' : c = '\n'
      · subst hc'
        rfl
      · show lineEnd? (c :: '\n' :: tail) = lineEnd? (c :: ['\n'])
        rw [lineEnd?_of_ne hc' hc, lineEnd?_of_ne hc' hc]
  | c :: d :: init =>
    show lineEnd? (c :: d :: (init ++ ['\n'] ++ tail)) = lineEnd? (c :: d :: (init ++ ['\n']))
    unfold lineEnd?
    split <;> simp_all

/-- **The blank end of a line is settled before more text follows.** -/
theorem endOfLine_append {line : Chars} (hline : EndsLine line) (tail : Chars) :
    Pattern.endOfLine.match? (line ++ tail) = Pattern.endOfLine.match? line := by
  have hblank : '\n' ∉ line.takeWhile isBlank := lineFeed_not_mem_takeWhile (by decide) line
  have hrest : EndsLine (line.dropWhile isBlank) := by
    refine EndsLine.of_not_mem ?_ hblank
    rwa [List.takeWhile_append_dropWhile]
  have htake : (line ++ tail).takeWhile isBlank = line.takeWhile isBlank := by
    obtain ⟨init, rfl⟩ := hline
    rw [List.append_assoc, takeWhile_append_lineFeed (by decide)]
    exact takeWhile_append_lineFeed (by decide) init tail
  have hdrop : (line ++ tail).dropWhile isBlank = line.dropWhile isBlank ++ tail := by
    have hsplit := (line ++ tail).takeWhile_append_dropWhile (p := isBlank)
    rw [htake] at hsplit
    conv at hsplit => rhs; rw [← line.takeWhile_append_dropWhile (p := isBlank)]
    rw [List.append_assoc] at hsplit
    exact List.append_cancel_left hsplit
  rw [endOfLine_match?, endOfLine_match?, htake, hdrop, lineEnd?_append hrest]

end Pattern

/-- **Tokens joined**: one sequence behind the other, where plain text at the end of the first and
plain text at the beginning of the second become one. -/
inductive Token.Joined (left right joined : List Token) : Prop
  | intro (init rest : List Token) (before after : Chars) (offset offset' : Int)
      (left_eq : left = init ++ ofText before offset)
      (right_eq : right = ofText after offset' ++ rest)
      (joined_eq : joined = init ++ (ofText (before ++ after) offset ++ rest))

/-- More tokens in front of tokens joined. -/
theorem Token.Joined.append {left right joined : List Token} (h : Joined left right joined)
    (front : List Token) : Joined (front ++ left) right (front ++ joined) := by
  obtain ⟨init, rest, before, after, offset, offset', rfl, rfl, rfl⟩ := h
  exact ⟨front ++ init, rest, before, after, offset, offset', (List.append_assoc _ _ _).symm, rfl,
    (List.append_assoc _ _ _).symm⟩

namespace Lexer

/-! ## Cursors in the longer text -/

/-- **The same point of a longer text**: what is behind the cursors is the same, and more text
follows what is ahead. -/
structure Extends (tail : Chars) (start longer : Cursor) : Prop where
  behind : longer.behind = start.behind
  ahead : longer.ahead = start.ahead ++ tail

variable {tail : Chars} {start longer : Cursor}

namespace Extends

theorem position (h : Extends tail start longer) : longer.position = start.position := by
  rw [longer.position_eq, start.position_eq, h.behind]

theorem atLineStart (h : Extends tail start longer) : longer.atLineStart = start.atLineStart := by
  unfold Cursor.atLineStart
  rw [h.behind]

/-- Both cursors moved over the same text. -/
theorem advance (h : Extends tail start longer) {taken rest : Chars}
    (hsplit : start.ahead = taken ++ rest) :
    Extends tail (start.advance taken.length) (longer.advance taken.length) := by
  have hsplit' : longer.ahead = taken ++ (rest ++ tail) := by
    rw [h.ahead, hsplit, List.append_assoc]
  refine ⟨?_, ?_⟩
  · show (longer.ahead.take taken.length).reverse ++ longer.behind
      = (start.ahead.take taken.length).reverse ++ start.behind
    rw [hsplit, hsplit', List.take_left, List.take_left, h.behind]
  · rw [Cursor.ahead_advance_of_append hsplit, Cursor.ahead_advance_of_append hsplit']

/-- **A scan that succeeds takes the same in the longer text.** -/
theorem scan (h : Extends tail start longer) (hline : EndsLine start.ahead) {pattern : Pattern}
    (hlocal : pattern.IsLocal) {taken : Chars} {next : Cursor}
    (hscan : start.scan pattern = .ok (taken, next)) :
    ∃ longer', longer.scan pattern = .ok (taken, longer') ∧ Extends tail next longer'
      ∧ EndsLine next.ahead := by
  obtain ⟨hmatch, rfl⟩ := Cursor.match_of_scan hscan
  obtain ⟨hmatch', rest, hrest, hend⟩ := hlocal start.ahead taken tail hline hmatch
  rw [← h.ahead] at hmatch'
  refine ⟨_, Cursor.scan_of_match hmatch', h.advance hrest, ?_⟩
  rwa [Cursor.ahead_advance_of_append hrest]

end Extends

variable {delimiters : Delimiters}

/-- **A tag is read in the longer text** as it is. -/
theorem readTag_append (h : Extends tail start longer) (hline : EndsLine start.ahead) {tag : Tag}
    {after : Cursor} (hread : readTag delimiters start = .ok (tag, after)) :
    ∃ after', readTag delimiters longer = .ok (tag, after') ∧ Extends tail after after'
      ∧ EndsLine after.ahead := by
  simp only [readTag, bind_eq_ok, Prod.exists] at hread
  obtain ⟨openTag, c₁, h₁, sigil, c₂, h₂, before, c₃, h₃, content, c₄, h₄, behind, c₅, h₅,
    closeSigil, c₆, h₆, closeTag, c₇, h₇, hresult⟩ := hread
  cases hresult
  have hclosing := isSpace_closingSigil (sigil_of_match (Cursor.match_of_scan h₂).1)
  obtain ⟨l₁, s₁, e₁, n₁⟩ := h.scan hline (Pattern.literal_isLocal delimiters.opening.dense) h₁
  obtain ⟨l₂, s₂, e₂, n₂⟩ := e₁.scan n₁ Pattern.optionalSigil_isLocal h₂
  obtain ⟨l₃, s₃, e₃, n₃⟩ := e₂.scan n₂ Pattern.padding_isLocal h₃
  obtain ⟨l₄, s₄, e₄, n₄⟩ := e₃.scan n₃ (Pattern.content_isLocal hclosing) h₄
  obtain ⟨l₅, s₅, e₅, n₅⟩ := e₄.scan n₄ Pattern.padding_isLocal h₅
  obtain ⟨l₆, s₆, e₆, n₆⟩ := e₅.scan n₅ (Pattern.closeSigil_isLocal hclosing) h₆
  obtain ⟨l₇, s₇, e₇, n₇⟩ := e₆.scan n₆ (Pattern.literal_isLocal delimiters.closing.dense) h₇
  refine ⟨l₇, ?_, e₇, n₇⟩
  simp only [readTag, bind, Except.bind, s₁, s₂, s₃, s₄, s₅, s₆, s₇, h.position]
  rfl

/-- **A tag is settled in the longer text** as it is, and its line still ends before the rest. -/
theorem settle_append {after after' : Cursor} (h : Extends tail after after')
    (hline : EndsLine after.ahead) (lineStart : Bool) (indent : Chars) (offset : Int) (tag : Tag) :
    let settled := settle lineStart indent offset tag after
    ∃ cursor, settle lineStart indent offset tag after' = ⟨settled.blank, settled.tag, cursor⟩
      ∧ Extends tail settled.cursor cursor
      ∧ lineStartAfter settled.cursor.atLineStart settled.cursor.ahead = true := by
  intro settled
  have hend := Pattern.endOfLine_append hline tail
  rw [← h.ahead] at hend
  rcases settle_cases lineStart indent offset tag after with
    ⟨ending, rfl, hstands, hmatch, hsettled⟩ | ⟨hinline, hsettled⟩
  · obtain ⟨rest, hsplit⟩ := Pattern.match?_isPrefix hmatch
    rw [show settled = _ from hsettled, settle_alone hstands (hend.trans hmatch)]
    refine ⟨_, rfl, h.advance hsplit.symm, ?_⟩
    show lineStartAfter (after.advance ending.length).atLineStart (after.advance _).ahead = true
    rw [Cursor.ahead_advance_of_append hsplit.symm,
      Cursor.atLineStart_advance_of_append hsplit.symm, ← lineStartAfter_append, hsplit]
    exact hline.lineStartAfter _
  · rw [show settled = _ from hsettled,
      settle_inline fun hstart hstands => hend.trans (hinline hstart hstands)]
    exact ⟨_, rfl, h, hline.lineStartAfter _⟩

/-! ## Steps in the longer text -/

/-- A tag opens in the longer text where it does. -/
theorem Opening.append {needle ahead text indent rest : Chars}
    (h : Opening needle ahead text indent rest) (tail : Chars) :
    Opening needle (ahead ++ tail) text indent (rest ++ tail) := by
  refine ⟨?_, offsetOf?_append h.offset tail, h.blank, h.trimmed⟩
  rw [h.ahead_eq, List.append_assoc, List.append_assoc]

/-- **A step that reads a tag, and changes no delimiters, is the same in the longer text.** -/
theorem tagStep_append (h : Extends tail start longer)
    {text indent rest : Chars} {step : Step}
    (hopening : Opening delimiters.opening.text start.ahead text indent rest)
    (hline : EndsLine start.ahead)
    (hstep : tagStep delimiters start text indent = .ok step)
    (hkeeps : ∀ tag, .tag tag ∈ step.tokens → tag.kind? ≠ some .delimiters) :
    ∃ cursor, next delimiters longer = .ok ⟨step.tokens, delimiters, cursor⟩
      ∧ step.delimiters = delimiters ∧ Extends tail step.cursor cursor
      ∧ lineStartAfter step.cursor.atLineStart step.cursor.ahead = true := by
  have hopening' := hopening.append tail
  rw [← h.ahead] at hopening'
  rw [next_of_opening hopening']
  simp only [tagStep, bind_eq_ok, Prod.exists] at hstep
  obtain ⟨tag, after, hread, next, hnext, hstep⟩ := hstep
  cases hstep
  have hsplit := hopening.ahead_eq
  rw [← List.append_assoc] at hsplit
  have hbefore := h.advance hsplit
  have hrest : EndsLine (start.advance (text ++ indent).length).ahead := by
    rw [Cursor.ahead_advance_of_append hsplit]
    exact (hsplit ▸ hline).of_append (hopening.ne_nil delimiters.opening.solid)
  have htext := h.advance hopening.ahead_eq
  rw [← List.length_append] at hread
  obtain ⟨after', hread', hafter, hend⟩ := readTag_append hbefore hrest hread
  obtain ⟨cursor, hsettle, hcursor, hstart⟩ := settle_append hafter hend
    (start.advance text.length).atLineStart indent (start.advance text.length).position tag
  have hkind : tag.kind? ≠ some .delimiters := by
    rw [← settle_kind?]
    exact hkeeps _ (List.mem_append_right _ List.mem_cons_self)
  have hsame (source : Cursor) : delimitersAfter delimiters source tag = .ok delimiters :=
    delimitersAfter_of_ne delimiters source hkind
  rw [hsame] at hnext
  cases hnext
  refine ⟨cursor, ?_, rfl, hcursor, hstart⟩
  unfold tagStep
  rw [← List.length_append, hread']
  simp only [bind, Except.bind, hsame, htext.atLineStart, htext.position, hsettle, h.position]
  rfl

/-- **A step behind a line without a tag** reads what the step after the line reads, and the line
joins the plain text in front. -/
theorem next_behind_line {line : Chars} {step : Step} (hahead : start.ahead = line ++ tail)
    (hline : EndsLine line) (hnone : offsetOf? delimiters.opening.text line = none)
    (hstep : next delimiters (start.advance line.length) = .ok step) :
    ∃ text rest offset, step.tokens = Token.ofText text offset ++ rest
      ∧ next delimiters start = .ok ⟨Token.ofText (line ++ text) start.position ++ rest,
        step.delimiters, step.cursor⟩ := by
  have hneedle := delimiters.opening.solid
  have htail : (start.advance line.length).ahead = tail := Cursor.ahead_advance_of_append hahead
  have hfound : offsetOf? delimiters.opening.text start.ahead
      = (offsetOf? delimiters.opening.text tail).map (line.length + ·) := by
    obtain ⟨init, rfl⟩ := hline
    rw [offsetOf?_append_space hneedle isSpace_lineFeed, offsetOf?_nil hneedle, Option.map_none,
      Option.or_none] at hnone
    rw [hahead, List.append_assoc]
    show offsetOf? _ (init ++ '\n' :: tail) = _
    rw [offsetOf?_append_space hneedle isSpace_lineFeed, hnone, Option.none_or,
      List.length_append, List.length_singleton]
  rcases next_cases delimiters (start.advance line.length) with
    ⟨htailNone, hnext⟩ | ⟨text, indent, rest, hopening, hnext⟩
  · rw [htail] at htailNone
    rw [htailNone, Option.map_none] at hfound
    rw [hnext] at hstep
    cases hstep
    refine ⟨tail, [], (start.advance line.length).position, ?_, ?_⟩
    · rw [List.append_nil, ← htail]
      rfl
    · rw [next_of_none hfound, List.append_nil, ← hahead]
      show Except.ok (Step.mk _ delimiters (start.advance start.ahead.length))
        = .ok (Step.mk _ delimiters ((start.advance line.length).advance _))
      rw [Cursor.advance_advance, htail, ← List.length_append, ← hahead]
  · rw [hnext] at hstep
    have hopening' : Opening delimiters.opening.text start.ahead (line ++ text) indent rest := by
      have hsplit := hopening.ahead_eq
      have hoffset := hopening.offset
      rw [htail] at hsplit hoffset
      refine ⟨?_, ?_, hopening.blank, fun c hc => ?_⟩
      · rw [hahead, hsplit, List.append_assoc]
      · rw [hfound, hoffset, Option.map_some, List.length_append, Nat.add_assoc]
      · rw [List.getLast?_append] at hc
        cases hlast : text.getLast? with
        | some d =>
          rw [hlast] at hc
          cases hc
          exact hopening.trimmed c hlast
        | none =>
          obtain ⟨init, rfl⟩ := hline
          rw [hlast, List.getLast?_append] at hc
          cases hc
          decide
    rw [next_of_opening hopening']
    simp only [tagStep, bind_eq_ok, Prod.exists] at hstep
    obtain ⟨tag, after, hread, next, hdelimiters, hstep⟩ := hstep
    cases hstep
    rw [Cursor.advance_advance] at hread
    have hsource : delimitersAfter delimiters start tag = .ok next := by
      rw [← hdelimiters]
      unfold delimitersAfter
      rw [Cursor.source_advance]
    refine ⟨text, _, _, List.append_assoc _ _ _, ?_⟩
    unfold tagStep
    rw [List.length_append, Nat.add_assoc, hread]
    simp only [bind, Except.bind, hsource, Cursor.advance_advance, List.append_assoc]
    rfl

/-! ## The run -/

/-- **A run behind a line without a tag**: the line joins the plain text that the run after it
begins with, if any. -/
theorem run_behind_line {line : Chars} {others : List Token} (hahead : start.ahead = line ++ tail)
    (hline : EndsLine line) (hnone : offsetOf? delimiters.opening.text line = none)
    (hothers : run delimiters (start.advance line.length) = .ok others) :
    ∃ text rest offset, others = Token.ofText text offset ++ rest
      ∧ run delimiters start = .ok (Token.ofText (line ++ text) start.position ++ rest) := by
  have hne : start.ahead ≠ [] := hahead ▸ List.append_ne_nil_of_left_ne_nil hline.ne_nil _
  have hrest : (start.advance line.length).ahead = tail := Cursor.ahead_advance_of_append hahead
  by_cases htail : tail = []
  · rw [htail] at hrest
    rw [run_nil delimiters hrest] at hothers
    cases hothers
    rw [htail, List.append_nil] at hahead
    have hnext := next_of_none (hahead ▸ hnone)
    have hend : (textStep delimiters start).cursor.ahead = [] := by
      show (start.advance start.ahead.length).ahead = []
      rw [Cursor.ahead_advance, List.drop_length]
    refine ⟨[], [], 0, rfl, ?_⟩
    rw [run_of_next hne hnext, run_nil _ hend, List.append_nil, List.append_nil, ← hahead]
    exact congrArg Except.ok (List.append_nil _)
  · cases hstep : next delimiters (start.advance line.length) with
    | error fault =>
      rw [run_of_error (hrest ▸ htail) hstep] at hothers
      cases hothers
    | ok step =>
      obtain ⟨text, rest, offset, htokens, hnext⟩ := next_behind_line hahead hline hnone hstep
      rw [run_of_next (hrest ▸ htail) hstep] at hothers
      cases hmore : run step.delimiters step.cursor with
      | error fault =>
        rw [hmore] at hothers
        cases hothers
      | ok more =>
        rw [hmore] at hothers
        cases hothers
        refine ⟨text, rest ++ more, offset, ?_, ?_⟩
        · rw [htokens]
          exact List.append_assoc _ _ _
        · rw [run_of_next hne hnext, hmore, ← List.append_assoc]
          rfl

/-- **The tokens of two texts, one behind the other**, are the tokens of both joined, when a line
begins between them and the first text changes no delimiters. -/
theorem run_append (h : Extends tail start longer)
    (hline : lineStartAfter start.atLineStart start.ahead = true) {tokens others : List Token}
    (hrun : run delimiters start = .ok tokens)
    (hkeeps : ∀ tag, .tag tag ∈ tokens → tag.kind? ≠ some .delimiters)
    (hothers : run delimiters (longer.advance start.ahead.length) = .ok others) :
    ∃ joined, run delimiters longer = .ok joined ∧ Token.Joined tokens others joined := by
  refine run_induction (P := fun delimiters start tokens => ∀ longer,
      Extends tail start longer → lineStartAfter start.atLineStart start.ahead = true →
      (∀ tag, .tag tag ∈ tokens → tag.kind? ≠ some .delimiters) →
      run delimiters (longer.advance start.ahead.length) = .ok others →
      ∃ joined, run delimiters longer = .ok joined ∧ Token.Joined tokens others joined)
    ?_ ?_ hrun longer h hline hkeeps hothers
  · intro delimiters start hend longer h _ _ hothers
    rw [hend, List.length_nil, Cursor.advance_zero] at hothers
    exact ⟨others, hothers, [], others, [], [], 0, 0, rfl, rfl, rfl⟩
  · intro delimiters start step more hne hstep hmore ih longer h hline hkeeps hothers
    have hends := EndsLine.of_lineStartAfter hline hne
    have hne' : longer.ahead ≠ [] := by
      rw [h.ahead]
      exact List.append_ne_nil_of_left_ne_nil hne _
    rcases next_cases delimiters start with ⟨hnone, hnext⟩ | ⟨text, indent, rest, hopening, hnext⟩
    · -- the first text ends here, in plain text that the second may go on with
      rw [hnext] at hstep
      cases hstep
      have hend : (textStep delimiters start).cursor.ahead = [] := by
        show (start.advance start.ahead.length).ahead = []
        rw [Cursor.ahead_advance, List.drop_length]
      rw [run_nil _ hend] at hmore
      cases hmore
      obtain ⟨text, rest, offset, rfl, hjoined⟩ := run_behind_line h.ahead hends hnone hothers
      rw [h.position] at hjoined
      exact ⟨_, hjoined, [], rest, start.ahead, text, start.position, offset,
        List.append_nil _, rfl, rfl⟩
    · rw [hnext] at hstep
      obtain ⟨cursor, hlonger, hdelimiters, hcursor, hstart⟩ := tagStep_append h hopening hends
        hstep fun tag htag => hkeeps tag (List.mem_append_left _ htag)
      -- both ways lead to the same point, where the second text begins
      have hpoint : cursor.advance step.cursor.ahead.length
          = longer.advance start.ahead.length := by
        refine Cursor.eq_of_source ?_ ?_
        · rw [Cursor.source_advance, Cursor.source_advance, (next_ahead hlonger).2]
        · rw [Cursor.ahead_advance_of_append hcursor.ahead,
            Cursor.ahead_advance_of_append h.ahead]
      rw [hdelimiters] at ih
      rw [← hpoint] at hothers
      obtain ⟨joined, hjoined, hparts⟩ := ih cursor hcursor hstart
        (fun tag htag => hkeeps tag (List.mem_append_right _ htag)) hothers
      refine ⟨step.tokens ++ joined, ?_, hparts.append step.tokens⟩
      rw [run_of_next hne' hlonger, hjoined]
      rfl

end Lexer

end Mustache
