import Mustache.Proofs.Text.Layout
import Mustache.Token.Lexer

/-!
# A step of the lexer

What a step does is settled by where the next opening delimiter stands. `Lexer.Opening` says so
without a cursor: the text ahead is plain text that does not end in a blank, then blanks, then the
rest, which begins with the delimiter, and the delimiter stands nowhere before. With an opening, a
step is `tagStep` (`next_of_opening`); without one, all that is ahead is plain text
(`next_of_none`). Every theorem about a step begins with one of the two.

A tag read is alone on its line or not, and `settle_cases` says what follows from either.

The module ends with what a run does at each point (`run_nil`, `run_of_error`, `run_of_next`), with
the induction along a run that succeeds (`run_induction`), and with a bound of its steps
(`run_eq_runWithin`), by which a run on a given template can be evaluated.
-/

namespace Mustache

open Text Chars

namespace Cursor

variable {cursor : Cursor} {taken rest : Chars}

theorem eq_of_parts {left right : Cursor} (hbehind : left.behind = right.behind)
    (hahead : left.ahead = right.ahead) : left = right := by
  obtain ⟨behind, ahead, position, hposition⟩ := left
  obtain ⟨behind', ahead', position', hposition'⟩ := right
  cases hbehind
  cases hahead
  cases hposition.trans hposition'.symm
  rfl

/-- Two cursors in one text are the same when what lies ahead is. -/
theorem eq_of_source {left right : Cursor} (hsource : left.source = right.source)
    (hahead : left.ahead = right.ahead) : left = right := by
  refine eq_of_parts ?_ hahead
  unfold source at hsource
  rw [hahead] at hsource
  exact List.reverse_injective (List.append_cancel_right hsource)

@[simp] theorem advance_zero (cursor : Cursor) : cursor.advance 0 = cursor :=
  eq_of_parts rfl rfl

theorem advance_advance (cursor : Cursor) (m n : Nat) :
    (cursor.advance m).advance n = cursor.advance (m + n) := by
  refine eq_of_parts ?_ ?_
  · show ((cursor.ahead.drop m).take n).reverse ++ ((cursor.ahead.take m).reverse ++ cursor.behind)
      = (cursor.ahead.take (m + n)).reverse ++ cursor.behind
    rw [List.take_add, List.reverse_append, List.append_assoc]
  · exact List.drop_drop

theorem ahead_advance_of_append (h : cursor.ahead = taken ++ rest) :
    (cursor.advance taken.length).ahead = rest := by
  rw [ahead_advance, h, List.drop_left]

theorem position_advance_of_append (h : cursor.ahead = taken ++ rest) :
    (cursor.advance taken.length).position = cursor.position + taken.length := by
  show cursor.position + (cursor.ahead.take taken.length).length = _
  rw [h, List.take_left]

/-- **Whether a line begins** where a cursor has moved to. -/
theorem atLineStart_advance_of_append (h : cursor.ahead = taken ++ rest) :
    (cursor.advance taken.length).atLineStart = lineStartAfter cursor.atLineStart taken := by
  have hbehind : (cursor.advance taken.length).behind = taken.reverse ++ cursor.behind := by
    show (cursor.ahead.take taken.length).reverse ++ cursor.behind = _
    rw [h, List.take_left]
  unfold atLineStart
  rw [hbehind]
  rcases List.eq_nil_or_concat taken with rfl | ⟨init, c, rfl⟩
  · rfl
  · rw [List.concat_eq_append, lineStartAfter_concat, List.reverse_append]
    rfl

theorem scan_of_match {pattern : Pattern} (h : pattern.match? cursor.ahead = some taken) :
    cursor.scan pattern = .ok (taken, cursor.advance taken.length) := by
  unfold scan
  rw [h]

theorem scan_of_no_match {pattern : Pattern} (h : pattern.match? cursor.ahead = none) :
    cursor.scan pattern
      = .error (.malformed (.unmatched cursor.position pattern.written) cursor.place) := by
  unfold scan
  rw [h]

theorem match_of_scan {next : Cursor} {pattern : Pattern}
    (h : cursor.scan pattern = .ok (taken, next)) :
    pattern.match? cursor.ahead = some taken ∧ next = cursor.advance taken.length := by
  unfold scan at h
  split at h
  next found hfound =>
    cases h
    exact ⟨hfound, rfl⟩
  · cases h

theorem scanTo_of_add (cursor : Cursor) (n : Nat) :
    cursor.scanTo (cursor.position + n) = .ok (cursor.ahead.take n, cursor.advance n) := by
  unfold scanTo
  rw [if_neg (by omega), Nat.add_sub_cancel_left]

end Cursor

/-- A sigil marks the kind that it is the sigil of, and no other. -/
theorem Tag.kind?_eq_some_iff {tag : Tag} {kind : TagKind} :
    tag.kind? = some kind ↔ tag.sigil = kind.sigil := by
  constructor
  · intro h
    unfold kind? TagKind.ofSigil? at h
    have hfound := List.find?_some h
    exact (of_decide_eq_true hfound).symm
  · intro h
    unfold kind?
    rw [h]
    exact TagKind.ofSigil?_sigil kind

/-- The content is free in comments and delimiter tags. -/
theorem Tag.isFreeform_iff {tag : Tag} :
    isFreeform tag.sigil = true ↔ tag.kind? = some .comment ∨ tag.kind? = some .delimiters := by
  rw [kind?_eq_some_iff, kind?_eq_some_iff, isFreeform, Bool.or_eq_true, decide_eq_true_eq,
    decide_eq_true_eq]
  rfl

/-- **The pattern stays in its line**: what it takes holds no line feed. -/
def Pattern.InLine (pattern : Pattern) : Prop :=
  ∀ text taken, pattern.match? text = some taken → '\n' ∉ taken

namespace Lexer

variable {delimiters : Delimiters} {start : Cursor}

/-! ## Where the next tag opens -/

/-- **The next opening delimiter**: in the text ahead there are plain text that does not end in a
blank, then blanks, and then the rest, at whose front the delimiter stands for the first time. -/
structure Opening (needle ahead text indent rest : Chars) : Prop where
  ahead_eq : ahead = text ++ (indent ++ rest)
  offset : offsetOf? needle ahead = some (text.length + indent.length)
  blank : ∀ c ∈ indent, isBlank c = true
  trimmed : ∀ c ∈ text.getLast?, isBlank c = false

namespace Opening

variable {needle ahead text indent rest : Chars}

/-- Where a delimiter is found, a tag opens. -/
theorem of_offset {n : Nat} (h : offsetOf? needle ahead = some n) :
    ∃ text indent, Opening needle ahead text indent (ahead.drop n) := by
  obtain ⟨indent, hplain, hblank, htrimmed⟩ := exists_trimEnd isBlank (ahead.take n)
  refine ⟨trimEnd isBlank (ahead.take n), indent, ?_, ?_, hblank, htrimmed⟩
  · rw [← List.append_assoc, ← hplain, List.take_append_drop]
  · have hlength := congrArg List.length hplain
    rw [List.length_take, Nat.min_eq_left (offsetOf?_eq_some h).1, List.length_append] at hlength
    exact h.trans (congrArg some hlength)

theorem isPrefix (h : Opening needle ahead text indent rest) : needle <+: rest := by
  have hfound := (offsetOf?_eq_some h.offset).2
  rwa [h.ahead_eq, ← List.append_assoc, ← List.length_append, List.drop_left] at hfound

theorem ne_nil (hneedle : Solid needle) (h : Opening needle ahead text indent rest) :
    rest ≠ [] := by
  rintro rfl
  exact hneedle.1 (List.prefix_nil.mp h.isPrefix)

theorem takeWhile_rest (hneedle : Solid needle) (h : Opening needle ahead text indent rest) :
    rest.takeWhile isBlank = [] := by
  obtain ⟨behind, rfl⟩ := h.isPrefix
  obtain ⟨c, others, rfl, hc⟩ := hneedle.exists_cons
  have hblank : isBlank c = false := by
    refine Bool.eq_false_iff.mpr fun hblank => ?_
    rw [isSpace_of_isBlank hblank] at hc
    cases hc
  rw [List.cons_append, List.takeWhile_cons, hblank, if_neg Bool.false_ne_true]

end Opening

/-- **A step with a tag**: the plain text, the tag on its line, and the delimiters it leaves. -/
def tagStep (delimiters : Delimiters) (start : Cursor) (text indent : Chars) :
    Except Fault Step := do
  let line := start.advance text.length
  let (tag, after) ← readTag delimiters (start.advance (text.length + indent.length))
  let settled := settle line.atLineStart indent line.position tag after
  let next ← delimitersAfter delimiters start tag
  return ⟨Token.ofText text start.position ++ settled.blank ++ [.tag settled.tag], next,
    settled.cursor⟩

/-- A step without a tag: all that is ahead is plain text. -/
def textStep (delimiters : Delimiters) (start : Cursor) : Step :=
  ⟨Token.ofText start.ahead start.position, delimiters, start.advance start.ahead.length⟩

theorem textEnd_of_opening {text indent rest : Chars}
    (h : Opening delimiters.opening.text start.ahead text indent rest) :
    textEnd delimiters start = start.position + text.length := by
  have hfind : start.find? delimiters.opening.text
      = some (start.position + (text.length + indent.length)) := by
    unfold Cursor.find?
    rw [h.offset, Option.map_some]
  unfold textEnd
  rw [hfind]
  show start.position + (trimEnd isBlank (start.ahead.take
    (start.position + (text.length + indent.length) - start.position))).length = _
  rw [Nat.add_sub_cancel_left, h.ahead_eq, ← List.append_assoc, ← List.length_append,
    List.take_left, trimEnd_append h.trimmed h.blank]

/-- Behind the plain text the blanks are scanned as indentation. -/
theorem scan_indent_of_opening {text indent rest : Chars}
    (h : Opening delimiters.opening.text start.ahead text indent rest) :
    (start.advance text.length).scan .indent
      = .ok (indent, start.advance (text.length + indent.length)) := by
  have hindent : Pattern.indent.match? (start.advance text.length).ahead = some indent := by
    show some _ = _
    rw [Cursor.ahead_advance_of_append h.ahead_eq, List.takeWhile_append_of_pos h.blank,
      h.takeWhile_rest delimiters.opening.solid, List.append_nil]
  rw [Cursor.scan_of_match hindent, Cursor.advance_advance]

/-- Behind the blanks the opening delimiter matches. -/
theorem hasMatch_of_opening {text indent rest : Chars}
    (h : Opening delimiters.opening.text start.ahead text indent rest) :
    (start.advance (text.length + indent.length)).hasMatch
      (.literal delimiters.opening.text) = true := by
  have hline : (start.advance text.length).ahead = indent ++ rest :=
    Cursor.ahead_advance_of_append h.ahead_eq
  unfold Cursor.hasMatch
  rw [← Cursor.advance_advance, Cursor.ahead_advance_of_append hline]
  simp only [Pattern.match?, List.isPrefixOf_iff_prefix.mpr h.isPrefix, if_true,
    Option.isSome_some]

/-- **A step with an opening** reads the tag that opens there. -/
theorem next_of_opening {text indent rest : Chars}
    (h : Opening delimiters.opening.text start.ahead text indent rest) :
    next delimiters start = tagStep delimiters start text indent := by
  unfold next tagStep
  rw [textEnd_of_opening h, Cursor.scanTo_of_add]
  simp only [bind, Except.bind, scan_indent_of_opening h, hasMatch_of_opening h, if_true]
  rw [h.ahead_eq, List.take_left]

/-- Without an opening the plain text ends where the template does. -/
theorem textEnd_of_none (h : offsetOf? delimiters.opening.text start.ahead = none) :
    textEnd delimiters start = start.position + start.ahead.length := by
  unfold textEnd Cursor.find?
  rw [h]
  rfl

/-- **A step without an opening** takes all that is ahead as plain text. -/
theorem next_of_none (h : offsetOf? delimiters.opening.text start.ahead = none) :
    next delimiters start = .ok (textStep delimiters start) := by
  have hahead : (start.advance start.ahead.length).ahead = [] := by
    rw [Cursor.ahead_advance, List.drop_length]
  have hopen : (start.advance start.ahead.length).hasMatch
      (.literal delimiters.opening.text) = false := by
    unfold Cursor.hasMatch
    simp only [Pattern.match?, hahead, delimiters.opening.solid.isPrefixOf_nil,
      Bool.false_eq_true, if_false, Option.isSome_none]
  have hindent : Pattern.indent.match? (start.advance start.ahead.length).ahead = some [] := by
    rw [hahead]
    rfl
  have hrest : Pattern.everything.match? (start.advance start.ahead.length).ahead = some [] := by
    rw [hahead]
    rfl
  unfold next textStep
  rw [textEnd_of_none h, Cursor.scanTo_of_add]
  simp only [bind, Except.bind, Cursor.scan_of_match hindent, List.length_nil,
    Cursor.advance_zero, hopen, Bool.false_eq_true, if_false, Cursor.scan_of_match hrest]
  rw [List.take_length]
  simp only [Token.ofText, List.append_nil, if_true]
  rfl

/-- **Every step** is one of the two. -/
theorem next_cases (delimiters : Delimiters) (start : Cursor) :
    (offsetOf? delimiters.opening.text start.ahead = none
        ∧ next delimiters start = .ok (textStep delimiters start))
      ∨ ∃ text indent rest, Opening delimiters.opening.text start.ahead text indent rest
        ∧ next delimiters start = tagStep delimiters start text indent := by
  cases h : offsetOf? delimiters.opening.text start.ahead with
  | none => exact .inl ⟨rfl, next_of_none h⟩
  | some n =>
    obtain ⟨text, indent, hopening⟩ := Opening.of_offset h
    exact .inr ⟨text, indent, _, hopening, next_of_opening hopening⟩

/-! ## A tag read -/

/-- The sigil taken is none, or one of the sigils. -/
theorem sigil_of_match {text sigil : Chars} (h : Pattern.optionalSigil.match? text = some sigil) :
    sigil = [] ∨ ∃ c ∈ sigils, sigil = [c] := by
  cases text with
  | nil =>
    cases h
    exact .inl rfl
  | cons c rest =>
    simp only [Pattern.match?] at h
    split at h <;> cases h
    next hc => exact .inr ⟨c, by simpa using hc, rfl⟩
    · exact .inl rfl

/-- **The sigil of a tag marks a kind.** -/
theorem readTag_kind? {after : Cursor} {tag : Tag}
    (h : readTag delimiters start = .ok (tag, after)) : tag.kind?.isSome = true := by
  simp only [readTag, bind_eq_ok, Prod.exists] at h
  obtain ⟨_, _, -, sigil, _, hscan, _, _, -, _, _, -, _, _, -, _, _, -, _, _, -, h⟩ := h
  cases h
  show (TagKind.ofSigil? sigil).isSome = true
  rcases sigil_of_match (Cursor.match_of_scan hscan).1 with rfl | ⟨c, hc, rfl⟩
  · decide
  · have hall : sigils.all (fun c => (TagKind.ofSigil? [c]).isSome) = true := by decide
    exact List.all_eq_true.mp hall c hc

/-! ## Patterns that stay in their line -/

theorem literal_inLine {literal : Chars} (h : ∀ c ∈ literal, isSpace c = false) :
    (Pattern.literal literal).InLine := by
  intro text taken htaken
  simp only [Pattern.match?] at htaken
  split at htaken <;> cases htaken
  exact lineFeed_not_mem h

theorem closeSigil_inLine {sigil : Chars} (h : ∀ c ∈ closingSigil sigil, isSpace c = false) :
    (Pattern.closeSigil sigil).InLine := by
  intro text taken htaken
  simp only [Pattern.match?] at htaken
  split at htaken <;> cases htaken
  · exact lineFeed_not_mem h
  · exact List.not_mem_nil

theorem padding_inLine : Pattern.padding.InLine := by
  rintro text _ ⟨⟩
  exact lineFeed_not_mem_takeWhile (by decide) text

theorem optionalSigil_inLine : Pattern.optionalSigil.InLine := by
  intro text taken htaken
  rcases sigil_of_match htaken with rfl | ⟨c, hc, rfl⟩
  · exact List.not_mem_nil
  · rw [List.mem_singleton]
    rintro rfl
    exact absurd hc (by decide)

/-- A name stays in its line. -/
theorem content_inLine {sigil close : Chars} (h : isFreeform sigil = false) :
    (Pattern.content sigil close).InLine := by
  intro text taken htaken
  simp only [Pattern.match?, h, Bool.false_eq_true, if_false] at htaken
  cases htaken
  exact lineFeed_not_mem_takeWhile (by decide) text

/-! ## A tag on its line -/

section Settle

variable {tag : Tag} {after : Cursor} {indent : Chars} {offset : Int}

/-- A tag that may stand alone, at the beginning of a line and before its blank end, does. -/
theorem settle_alone {ending : Chars} (hkind : tag.kind?.any TagKind.standsAlone = true)
    (hend : Pattern.endOfLine.match? after.ahead = some ending) :
    settle true indent offset tag after
      = ⟨[], tag.alone indent ending, after.advance ending.length⟩ := by
  unfold settle
  rw [hkind, if_pos (Bool.and_self true), hend]

/-- Any other tag leaves its indentation to plain text. -/
theorem settle_inline {lineStart : Bool}
    (h : lineStart = true → tag.kind?.any TagKind.standsAlone = true →
      Pattern.endOfLine.match? after.ahead = none) :
    settle lineStart indent offset tag after = ⟨Token.ofText indent offset, tag, after⟩ := by
  unfold settle
  split
  next hcond =>
    rw [Bool.and_eq_true] at hcond
    rw [h hcond.1 hcond.2]
  · rfl

/-- **A tag on its line** is alone there, or it is not. -/
theorem settle_cases (lineStart : Bool) (indent : Chars) (offset : Int) (tag : Tag)
    (after : Cursor) :
    (∃ ending, lineStart = true ∧ tag.kind?.any TagKind.standsAlone = true
        ∧ Pattern.endOfLine.match? after.ahead = some ending
        ∧ settle lineStart indent offset tag after
          = ⟨[], tag.alone indent ending, after.advance ending.length⟩)
      ∨ (lineStart = true → tag.kind?.any TagKind.standsAlone = true →
          Pattern.endOfLine.match? after.ahead = none)
        ∧ settle lineStart indent offset tag after = ⟨Token.ofText indent offset, tag, after⟩ := by
  by_cases halone : lineStart = true ∧ tag.kind?.any TagKind.standsAlone = true
      ∧ ∃ ending, Pattern.endOfLine.match? after.ahead = some ending
  · obtain ⟨rfl, hstands, ending, hmatch⟩ := halone
    exact .inl ⟨ending, rfl, hstands, hmatch, settle_alone hstands hmatch⟩
  · have hinline : lineStart = true → tag.kind?.any TagKind.standsAlone = true →
        Pattern.endOfLine.match? after.ahead = none := by
      intro hstart hstands
      refine Option.eq_none_iff_forall_not_mem.mpr fun ending hending => ?_
      exact halone ⟨hstart, hstands, ending, hending⟩
    exact .inr ⟨hinline, settle_inline hinline⟩

theorem settle_kind? (lineStart : Bool) (indent : Chars) (offset : Int) (tag : Tag)
    (after : Cursor) : (settle lineStart indent offset tag after).tag.kind? = tag.kind? := by
  rcases settle_cases lineStart indent offset tag after with ⟨ending, -, -, -, h⟩ | ⟨-, h⟩
  · rw [h]
    rfl
  · rw [h]

end Settle

/-- Only a delimiter tag changes the delimiters. -/
theorem delimitersAfter_of_ne (delimiters : Delimiters) (cursor : Cursor) {tag : Tag}
    (h : tag.kind? ≠ some .delimiters) : delimitersAfter delimiters cursor tag = .ok delimiters :=
  if_neg h

/-! ## The run, step by step -/

theorem run_nil (delimiters : Delimiters) (h : start.ahead = []) :
    run delimiters start = .ok [] := by
  rw [run, dif_pos h]

theorem run_of_error {fault : Fault} (hne : start.ahead ≠ [])
    (h : next delimiters start = .error fault) : run delimiters start = .error fault := by
  rw [run, dif_neg hne]
  split
  next fault' hfault =>
    rw [h] at hfault
    cases hfault
    rfl
  next step hstep =>
    rw [h] at hstep
    cases hstep

theorem run_of_next {step : Step} (hne : start.ahead ≠ []) (h : next delimiters start = .ok step) :
    run delimiters start = (run step.delimiters step.cursor).map (step.tokens ++ ·) := by
  rw [run, dif_neg hne]
  split
  next fault hfault =>
    rw [h] at hfault
    cases hfault
  next step' hstep =>
    rw [h] at hstep
    cases hstep
    rfl

/-- **Induction along a run that succeeds**: at the end, and before a step from which the run goes
on. -/
@[elab_as_elim]
theorem run_induction {P : Delimiters → Cursor → List Token → Prop}
    (hnil : ∀ delimiters start, start.ahead = [] → P delimiters start [])
    (hstep : ∀ delimiters start step tokens, start.ahead ≠ [] →
      next delimiters start = .ok step → run step.delimiters step.cursor = .ok tokens →
      P step.delimiters step.cursor tokens → P delimiters start (step.tokens ++ tokens))
    {tokens : List Token} (h : run delimiters start = .ok tokens) : P delimiters start tokens := by
  induction delimiters, start using run.induct generalizing tokens with
  | case1 delimiters start hend =>
    rw [run_nil delimiters hend] at h
    cases h
    exact hnil delimiters start hend
  | case2 delimiters start hne fault hfault =>
    rw [run_of_error hne hfault] at h
    cases h
  | case3 delimiters start hne step hnext _ ih =>
    rw [run_of_next hne hnext] at h
    cases hrun : run step.delimiters step.cursor with
    | error fault =>
      rw [hrun] at h
      cases h
    | ok others =>
      rw [hrun] at h
      cases h
      exact hstep delimiters start step others hne hnext hrun (ih hrun)

/-- **What holds of the tokens of every step** holds of all tokens of a run. -/
theorem run_forall {P : Token → Prop}
    (hnext : ∀ delimiters start step, next delimiters start = .ok step → ∀ token ∈ step.tokens,
      P token)
    {tokens : List Token} (h : run delimiters start = .ok tokens) : ∀ token ∈ tokens, P token := by
  refine run_induction (fun _ _ _ => nofun) ?_ h
  intro delimiters start step others _ hstep _ ih token hmem
  rcases List.mem_append.mp hmem with hmem | hmem
  · exact hnext delimiters start step hstep token hmem
  · exact ih token hmem

/-- **A run of so many steps at most.** -/
def runWithin : Nat → Delimiters → Cursor → Except Fault (List Token)
  | 0, _, _ => .ok []
  | steps + 1, delimiters, cursor =>
    if cursor.ahead = [] then .ok []
    else
      match next delimiters cursor with
      | .error fault => .error fault
      | .ok step => (runWithin steps step.delimiters step.cursor).map (step.tokens ++ ·)

/-- **A run takes no more steps than there are characters ahead.** -/
theorem run_eq_runWithin {steps : Nat} (h : start.ahead.length ≤ steps) :
    run delimiters start = runWithin steps delimiters start := by
  induction steps generalizing delimiters start with
  | zero => exact run_nil delimiters (List.eq_nil_of_length_eq_zero (Nat.le_zero.mp h))
  | succ steps ih =>
    unfold runWithin
    by_cases hnil : start.ahead = []
    · rw [if_pos hnil, run_nil delimiters hnil]
    · rw [if_neg hnil]
      cases hnext : next delimiters start with
      | error fault => exact run_of_error hnil hnext
      | ok step =>
        have hlt := next_length_lt hnext hnil
        rw [run_of_next hnil hnext, ih (by omega)]

end Lexer

end Mustache
