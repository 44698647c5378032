import Mustache.Proofs.Lexer.Step

/-!
# Tokens tile their template

The tokens of a template, written out in order, are the template, and each token stands where it
says: plain text right behind the tokens before it, a tag behind them and its own indentation, with
its opening delimiter at that place of the template. No plain text is empty. So the check that
`tokenize` makes of its own answer is never the reason of a failure (`tokenize_tiles`).

The invariant of the run is `Token.Placed`: tokens that stand one behind the other from an offset
on. One step keeps it (`next_placed`), and so does the run (`run_placed`).
-/

namespace Mustache

open Text Chars

namespace Token

/-- **The token stands at an offset**: plain text begins there, a tag's indentation does. -/
def StandsAt (offset : Nat) : Token → Prop
  | .text plain recorded => plain ≠ [] ∧ recorded = offset
  | .tag piece => piece.offset = offset + piece.spaceBefore.length

/-- **Tokens that stand one behind the other**, from an offset on. -/
def Placed (offset : Nat) : List Token → Prop
  | [] => True
  | token :: rest => token.StandsAt offset ∧ Placed (offset + token.written.length) rest

theorem placed_append {offset : Nat} {left right : List Token} :
    Placed offset (left ++ right)
      ↔ Placed offset left ∧ Placed (offset + (writtenAll left).length) right := by
  induction left generalizing offset with
  | nil => simp [Placed]
  | cons token left ih =>
    have hlength : offset + (writtenAll (token :: left)).length
        = offset + token.written.length + (writtenAll left).length := by
      simp only [writtenAll, List.flatMap_cons, List.length_append]
      omega
    rw [List.cons_append, Placed, Placed, ih, hlength, and_assoc]

/-- Plain text as tokens stands where it says. -/
theorem placed_ofText (text : Chars) (offset : Nat) : Placed offset (ofText text offset) := by
  by_cases h : text = []
  · rw [ofText, if_pos h]
    trivial
  · rw [ofText, if_neg h]
    exact ⟨⟨h, rfl⟩, trivial⟩

theorem placed_singleton {offset : Nat} {token : Token} (h : token.StandsAt offset) :
    Placed offset [token] := ⟨h, trivial⟩

/-- **The tokens tile a template**: written out they are the template, and each stands right behind
those before it, a tag with its opening delimiter at its own offset of the template. -/
structure Tiles (source : Chars) (tokens : List Token) : Prop where
  written : writtenAll tokens = source
  stands : ∀ before token after, tokens = before ++ token :: after →
    token.StandsAt (writtenAll before).length
  opens : ∀ tag, .tag tag ∈ tokens → tag.openTag <+: source.drop tag.offset.toNat

/-- The opening delimiter of a tag stands behind the tokens before it and its indentation. -/
theorem openTag_isPrefix {before after : List Token} {tag : Tag}
    (h : tag.offset = (writtenAll before).length + tag.spaceBefore.length) :
    tag.openTag <+: (writtenAll (before ++ .tag tag :: after)).drop tag.offset.toNat := by
  have hoffset : tag.offset.toNat = (writtenAll before ++ tag.spaceBefore).length := by
    rw [List.length_append]
    omega
  have hwritten : writtenAll (before ++ .tag tag :: after)
      = (writtenAll before ++ tag.spaceBefore) ++ (tag.openTag ++ (tag.sigil ++ tag.paddingBefore
        ++ tag.content ++ tag.paddingAfter ++ tag.closeSigil ++ tag.closeTag ++ tag.spaceAfter
        ++ writtenAll after)) := by
    simp only [writtenAll, List.flatMap_append, List.flatMap_cons, written, Tag.written, Tag.core,
      List.append_assoc]
  rw [hoffset, hwritten, List.drop_left]
  exact List.prefix_append _ _

/-- **Tokens placed from the beginning tile** what they were cut from. -/
theorem tiles_of_placed {source : Chars} {tokens : List Token}
    (hwritten : writtenAll tokens = source) (hplaced : Placed 0 tokens) : Tiles source tokens := by
  have hstands : ∀ before token after, tokens = before ++ token :: after →
      token.StandsAt (writtenAll before).length := by
    rintro before token after rfl
    have h := (placed_append.mp hplaced).2.1
    rwa [Nat.zero_add] at h
  refine ⟨hwritten, hstands, fun tag hmem => ?_⟩
  obtain ⟨before, after, rfl⟩ := List.append_of_mem hmem
  subst hwritten
  exact openTag_isPrefix (hstands before (.tag tag) after rfl)

end Token

namespace Lexer

open Token

variable {delimiters : Delimiters} {start : Cursor}

/-! ## One step -/

/-- A tag is read at the offset where it begins. -/
theorem readTag_offset {after : Cursor} {tag : Tag}
    (h : readTag delimiters start = .ok (tag, after)) : tag.offset = start.position := by
  simp only [readTag, bind_eq_ok, Prod.exists] at h
  obtain ⟨_, _, -, _, _, -, _, _, -, _, _, -, _, _, -, _, _, -, _, _, -, h⟩ := h
  cases h
  rfl

/-- A tag on its line stands behind its indentation, be that plain text or its own. -/
theorem settle_placed {tag : Tag} {after : Cursor} {indent : Chars} {offset : Nat}
    (hbefore : tag.spaceBefore = []) (hoffset : tag.offset = (offset + indent.length : Nat))
    (atLineStart : Bool) :
    let settled := settle atLineStart indent offset tag after
    Placed offset (settled.blank ++ [.tag settled.tag]) := by
  have hplain : Placed offset (ofText indent offset ++ [.tag tag]) := by
    refine placed_append.mpr ⟨placed_ofText indent offset, placed_singleton ?_⟩
    rw [writtenAll_ofText]
    show tag.offset = _
    rw [hoffset, hbefore]
    simp
  intro settled
  rcases settle_cases atLineStart indent offset tag after with ⟨ending, -, -, -, h⟩ | ⟨-, h⟩
  · rw [show settled = _ from h]
    refine placed_singleton ?_
    show tag.offset = _
    rw [hoffset, Tag.alone]
    simp
  · rw [show settled = _ from h]
    exact hplain

theorem tagStep_placed {text indent rest : Chars} {step : Step}
    (hopening : Opening delimiters.opening.text start.ahead text indent rest)
    (h : tagStep delimiters start text indent = .ok step) :
    Placed start.position step.tokens := by
  simp only [tagStep, bind_eq_ok, Prod.exists] at h
  obtain ⟨tag, after, hread, next, -, h⟩ := h
  cases h
  have hline := Cursor.position_advance_of_append hopening.ahead_eq
  have hoffset : tag.offset = ((start.position + text.length) + indent.length : Nat) := by
    have hahead := hopening.ahead_eq
    rw [← List.append_assoc] at hahead
    have hposition := Cursor.position_advance_of_append hahead
    rw [List.length_append] at hposition
    rw [readTag_offset hread, hposition, Nat.add_assoc]
  rw [List.append_assoc, placed_append, writtenAll_ofText, hline]
  exact ⟨placed_ofText text start.position,
    settle_placed (readTag_ahead hread).2.2.2.1 hoffset _⟩

/-- **The tokens of a step stand** from where the step begins. -/
theorem next_placed {step : Step} (h : next delimiters start = .ok step) :
    Placed start.position step.tokens := by
  rcases next_cases delimiters start with ⟨-, hnext⟩ | ⟨text, indent, rest, hopening, hnext⟩
  · rw [hnext] at h
    cases h
    exact placed_ofText start.ahead start.position
  · rw [hnext] at h
    exact tagStep_placed hopening h

/-- A step moves on by what its tokens were cut from. -/
theorem next_position {step : Step} (h : next delimiters start = .ok step) :
    step.cursor.position = start.position + (writtenAll step.tokens).length := by
  obtain ⟨hahead, hsource⟩ := next_ahead h
  have hlength := congrArg List.length hsource
  have haheadLength := congrArg List.length hahead
  simp only [Cursor.source, List.length_append, List.length_reverse, ← Cursor.position_eq]
    at hlength haheadLength
  omega

/-! ## The run -/

/-- **The tokens of a run** stand from where it begins, and are what lies ahead. -/
theorem run_placed {tokens : List Token} (h : run delimiters start = .ok tokens) :
    writtenAll tokens = start.ahead ∧ Placed start.position tokens := by
  refine run_induction (fun _ start hend => ⟨hend.symm, trivial⟩) ?_ h
  intro delimiters start step others _ hstep _ ⟨hwritten, hplaced⟩
  refine ⟨?_, placed_append.mpr ⟨next_placed hstep, ?_⟩⟩
  · rw [writtenAll_append, hwritten, (next_ahead hstep).1]
  · rwa [← next_position hstep]

end Lexer

/-! ## The faults of a run -/

/-- **The computation fails where a pattern does not match**, and for nothing else. -/
def FailsUnmatched {α : Type} (outcome : Except Fault α) : Prop :=
  ∀ fault, outcome = .error fault →
    ∃ offset pattern place, fault = .malformed (.unmatched offset pattern) place

namespace FailsUnmatched

theorem ok {α : Type} (a : α) : FailsUnmatched (.ok a) := nofun

theorem error {α : Type} (offset : Int) (pattern : Chars) (place : Place) :
    FailsUnmatched (.error (.malformed (.unmatched offset pattern) place) : Except Fault α) := by
  rintro fault h
  cases h
  exact ⟨offset, pattern, place, rfl⟩

theorem bind {α β : Type} {first : Except Fault α} {second : α → Except Fault β}
    (hfirst : FailsUnmatched first) (hsecond : ∀ a, FailsUnmatched (second a)) :
    FailsUnmatched (first >>= second) := by
  cases first with
  | ok a => exact hsecond a
  | error fault =>
    intro fault' h
    cases h
    exact hfirst _ rfl

theorem scan (cursor : Cursor) (pattern : Pattern) : FailsUnmatched (cursor.scan pattern) := by
  cases h : pattern.match? cursor.ahead with
  | some taken =>
    rw [Cursor.scan_of_match h]
    exact ok _
  | none =>
    rw [Cursor.scan_of_no_match h]
    exact error _ _ _

end FailsUnmatched

namespace Lexer

variable {delimiters : Delimiters} {start : Cursor}

theorem readTag_failsUnmatched (delimiters : Delimiters) (start : Cursor) :
    FailsUnmatched (readTag delimiters start) := by
  unfold readTag
  refine (FailsUnmatched.scan _ _).bind fun _ => (FailsUnmatched.scan _ _).bind fun _ => ?_
  refine (FailsUnmatched.scan _ _).bind fun _ => (FailsUnmatched.scan _ _).bind fun _ => ?_
  refine (FailsUnmatched.scan _ _).bind fun _ => (FailsUnmatched.scan _ _).bind fun _ => ?_
  exact (FailsUnmatched.scan _ _).bind fun _ => FailsUnmatched.ok _

theorem delimitersAfter_failsUnmatched (delimiters : Delimiters) (start : Cursor) (tag : Tag) :
    FailsUnmatched (delimitersAfter delimiters start tag) := by
  unfold delimitersAfter
  split
  · split
    · exact FailsUnmatched.ok _
    · exact FailsUnmatched.error _ _ _
  · exact FailsUnmatched.ok _

theorem next_failsUnmatched (delimiters : Delimiters) (start : Cursor) :
    FailsUnmatched (next delimiters start) := by
  rcases next_cases delimiters start with ⟨-, hnext⟩ | ⟨text, indent, rest, -, hnext⟩
  · rw [hnext]
    exact FailsUnmatched.ok _
  · rw [hnext]
    unfold tagStep
    refine (readTag_failsUnmatched _ _).bind fun _ => ?_
    exact (delimitersAfter_failsUnmatched _ _ _).bind fun _ => FailsUnmatched.ok _

/-- **A run fails where a pattern does not match**, and for nothing else. -/
theorem run_failsUnmatched (delimiters : Delimiters) (start : Cursor) :
    FailsUnmatched (run delimiters start) := by
  induction delimiters, start using run.induct with
  | case1 delimiters start hnil =>
    rw [run_nil delimiters hnil]
    exact FailsUnmatched.ok _
  | case2 delimiters start hne fault hfault =>
    rw [run_of_error hne hfault]
    intro fault' h
    cases h
    exact next_failsUnmatched delimiters start fault hfault
  | case3 delimiters start hne step hstep _ ih =>
    rw [run_of_next hne hstep]
    cases hrun : run step.delimiters step.cursor with
    | error fault =>
      intro fault' h
      cases h
      exact ih fault hrun
    | ok others => exact FailsUnmatched.ok _

/-- A run fails for a template that is malformed. -/
theorem run_failsMalformed (delimiters : Delimiters) (start : Cursor) (fault : Fault)
    (h : run delimiters start = .error fault) : ∃ cause place, fault = .malformed cause place := by
  obtain ⟨offset, pattern, place, hfault⟩ := run_failsUnmatched delimiters start fault h
  exact ⟨.unmatched offset pattern, place, hfault⟩

end Lexer

/-- **Checking the tokens changes nothing**: they tile the template. -/
theorem tokenize_eq_run (source : Chars) :
    tokenize source = Lexer.run .standard (.start source) := by
  unfold tokenize
  cases h : Lexer.run .standard (.start source) with
  | error fault => rfl
  | ok tokens =>
    have hwritten : Token.writtenAll tokens = source := (Lexer.run_placed h).1
    show (if Token.writtenAll tokens = source then _ else _) = _
    rw [if_pos hwritten]
    rfl

/-- The tokens of a template, in no more steps than it has characters. -/
theorem tokenize_eq_runWithin (source : Chars) :
    tokenize source = Lexer.runWithin source.length .standard (.start source) := by
  rw [tokenize_eq_run]
  exact Lexer.run_eq_runWithin (Nat.le_refl _)

/-- **The tokens of a template tile it**, and no template fails for tokens that do not. -/
theorem tokenize_tiles (source : Chars) :
    (∀ tokens, tokenize source = .ok tokens → Token.Tiles source tokens)
      ∧ tokenize source ≠ .error .torn := by
  rw [tokenize_eq_run]
  refine ⟨fun tokens h => ?_, fun h => ?_⟩
  · obtain ⟨hwritten, hplaced⟩ := Lexer.run_placed h
    exact Token.tiles_of_placed hwritten hplaced
  · obtain ⟨cause, place, hfault⟩ := Lexer.run_failsMalformed _ _ _ h
    cases hfault

/-- A template that changes its delimiters: two tags alone on their lines, and plain text. -/
theorem tokenize_tiles_changed_delimiters :
    tokenize "\x7b\x7b=| |=\x7d\x7d\n |#a| \nx".toList = .ok
        [.tag ⟨['{', '{'], ['='], [], ['|', ' ', '|'], [], ['='], ['}', '}'], [], ['\n'], true, 0⟩,
          .tag ⟨['|'], ['#'], [], ['a'], [], [], ['|'], [' '], [' ', '\n'], true, 11⟩,
          .text ['x'] 17]
      ∧ Token.Tiles "\x7b\x7b=| |=\x7d\x7d\n |#a| \nx".toList
        [.tag ⟨['{', '{'], ['='], [], ['|', ' ', '|'], [], ['='], ['}', '}'], [], ['\n'], true, 0⟩,
          .tag ⟨['|'], ['#'], [], ['a'], [], [], ['|'], [' '], [' ', '\n'], true, 11⟩,
          .text ['x'] 17] := by
  have htokens : tokenize "\x7b\x7b=| |=\x7d\x7d\n |#a| \nx".toList = .ok
      [.tag ⟨['{', '{'], ['='], [], ['|', ' ', '|'], [], ['='], ['}', '}'], [], ['\n'], true, 0⟩,
        .tag ⟨['|'], ['#'], [], ['a'], [], [], ['|'], [' '], [' ', '\n'], true, 11⟩,
        .text ['x'] 17] := by
    rw [tokenize_eq_runWithin]
    decide +kernel
  exact ⟨htokens, (tokenize_tiles _).1 _ htokens⟩

end Mustache
