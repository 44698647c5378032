import Mustache.Proofs.Lexer.TagStep

/-!
# The rounds of the lexer

The lexer takes step after step as long as something lies ahead. `Lexer.Rounds` says where it
stands after so many rounds, with the tokens it has by then and the delimiters that hold. What a
template is cut into is what the rounds come to: its tokens are those at the end of the text, and
its fault is that of the step that fails (`tokenize_eq_ok_iff`, `tokenize_eq_error_iff`).

**The law** (`tokenize_progress`): each round takes at least one character, so a template of so many
characters takes no more rounds than that. A round asks for the plain text up to a place that is not
behind it (`position_le_textEnd`). It reads a tag where an opening delimiter is ahead, and where
none is, its tokens are the plain text and no more (`next_gives`): the search for the opening
delimiter and the match of it agree, because a delimiter is not empty and does not begin with a
blank.
-/

namespace Mustache

open Text Chars

/-- What is behind the cursor and what is ahead are the whole text. -/
theorem Cursor.position_add_length (cursor : Cursor) :
    cursor.position + cursor.ahead.length = cursor.source.length := by
  rw [cursor.position_eq_length, ← cursor.before_append_ahead, List.length_append]

namespace Lexer

/-- **The lexer after so many rounds** on a template: the tokens so far, the delimiters in effect
and the cursor. There is a round only where something lies ahead. -/
inductive Rounds (source : Chars) : Nat → List Token → Delimiters → Cursor → Prop
  | none : Rounds source 0 [] .standard (.start source)
  | more {rounds : Nat} {tokens : List Token} {delimiters : Delimiters} {cursor : Cursor}
      {step : Step} (h : Rounds source rounds tokens delimiters cursor) (hne : cursor.ahead ≠ [])
      (hstep : next delimiters cursor = .ok step) :
      Rounds source (rounds + 1) (tokens ++ step.tokens) step.delimiters step.cursor

variable {delimiters : Delimiters} {start : Cursor}

/-! ## One round -/

/-- **A round moves the cursor on**, and keeps the text. -/
theorem next_position_lt {step : Step} (h : next delimiters start = .ok step)
    (hne : start.ahead ≠ []) : start.position < step.cursor.position := by
  have hlt := next_length_lt h hne
  have hstart := start.position_add_length
  have hstep := step.cursor.position_add_length
  rw [(next_ahead h).2] at hstep
  omega

/-- **A round does not move back**: the plain text ends where the round begins, or later. -/
theorem position_le_textEnd (delimiters : Delimiters) (start : Cursor) :
    start.position ≤ textEnd delimiters start := by
  cases h : offsetOf? delimiters.opening.text start.ahead with
  | none =>
    rw [textEnd_of_none h]
    exact Nat.le_add_right _ _
  | some n =>
    obtain ⟨text, indent, hopening⟩ := Opening.of_offset h
    rw [textEnd_of_opening hopening]
    exact Nat.le_add_right _ _

/-- **The plain text of a round**: what is ahead, up to where it is asked for. -/
def plainText (delimiters : Delimiters) (start : Cursor) : List Token :=
  Token.ofText (start.ahead.take (textEnd delimiters start - start.position)) start.position

/-- **What a round gives** is its plain text, and behind it a tag where an opening delimiter is
ahead, with the blanks in front of it that the tag does not take. Where none is ahead, nothing is
behind the plain text, neither among the tokens nor in the template. -/
inductive Gives (delimiters : Delimiters) (start : Cursor) (step : Step) : Prop
  | tag (blanks : Chars) (offset : Int) (tag : Tag)
      (opening : offsetOf? delimiters.opening.text start.ahead ≠ none)
      (tokens : step.tokens
        = plainText delimiters start ++ Token.ofText blanks offset ++ [.tag tag])
  | plain (opening : offsetOf? delimiters.opening.text start.ahead = none)
      (tokens : step.tokens = plainText delimiters start) (last : step.cursor.ahead = [])

theorem plainText_of_opening {text indent rest : Chars}
    (h : Opening delimiters.opening.text start.ahead text indent rest) :
    plainText delimiters start = Token.ofText text start.position := by
  rw [plainText, textEnd_of_opening h, Nat.add_sub_cancel_left, h.ahead_eq, List.take_left]

theorem plainText_of_none (h : offsetOf? delimiters.opening.text start.ahead = none) :
    plainText delimiters start = Token.ofText start.ahead start.position := by
  rw [plainText, textEnd_of_none h, Nat.add_sub_cancel_left, List.take_length]

/-- The blanks in front of a tag are plain text, or none are left. -/
theorem exists_settle_blank (lineStart : Bool) (indent : Chars) (offset : Int) (tag : Tag)
    (after : Cursor) :
    ∃ blanks, (settle lineStart indent offset tag after).blank = Token.ofText blanks offset := by
  rcases settle_cases lineStart indent offset tag after with ⟨ending, -, -, -, h⟩ | ⟨-, h⟩
  · exact ⟨[], by rw [h]; rfl⟩
  · exact ⟨indent, by rw [h]⟩

/-- **Every round** gives its plain text, and no more than that without a tag. -/
theorem next_gives {step : Step} (h : next delimiters start = .ok step) :
    Gives delimiters start step := by
  rcases next_cases delimiters start with ⟨hnone, hnext⟩ | ⟨text, indent, rest, hopening, hnext⟩
  · rw [hnext] at h
    cases h
    exact .plain hnone (plainText_of_none hnone).symm (ahead_textStep delimiters start)
  · rw [hnext] at h
    simp only [tagStep, bind_eq_ok, Prod.exists] at h
    obtain ⟨tag, after, -, behind, -, h⟩ := h
    cases h
    have hahead : offsetOf? delimiters.opening.text start.ahead ≠ none := by
      rw [hopening.offset]
      exact Option.some_ne_none _
    let line := start.advance text.length
    let settled := settle line.atLineStart indent line.position tag after
    obtain ⟨blanks, hblanks⟩ := exists_settle_blank line.atLineStart indent line.position tag after
    refine .tag blanks line.position settled.tag hahead ?_
    rw [plainText_of_opening hopening, ← hblanks]

/-! ## All rounds -/

namespace Rounds

variable {source : Chars} {rounds : Nat} {tokens : List Token}

theorem source_eq (h : Rounds source rounds tokens delimiters start) : start.source = source := by
  induction h with
  | none => rfl
  | more _ _ hstep ih => rw [(next_ahead hstep).2, ih]

theorem position_le (h : Rounds source rounds tokens delimiters start) :
    start.position ≤ source.length := by
  have hlength := start.position_add_length
  rw [h.source_eq] at hlength
  omega

/-- **Each round took a character.** -/
theorem le_position (h : Rounds source rounds tokens delimiters start) :
    rounds ≤ start.position := by
  induction h with
  | none => exact Nat.zero_le _
  | more _ hne hstep ih =>
    have hlt := next_position_lt hstep hne
    omega

/-- **The whole run** gives the tokens so far and then those of the run from here on. -/
theorem run_eq (h : Rounds source rounds tokens delimiters start) :
    run .standard (.start source) = (run delimiters start).map (tokens ++ ·) := by
  induction h with
  | none => exact (id_map _).symm
  | @more _ tokens _ _ step _ hne hstep ih =>
    rw [ih, run_of_next hne hstep]
    cases run step.delimiters step.cursor with
    | error fault => rfl
    | ok others => exact congrArg Except.ok (List.append_assoc _ _ _).symm

/-- **The rounds come to an end**: at the end of the text, or at a step that fails. -/
theorem exists_last (h : Rounds source rounds tokens delimiters start) :
    ∃ rounds tokens delimiters last, Rounds source rounds tokens delimiters last
      ∧ (last.ahead = [] ∨ last.ahead ≠ [] ∧ ∃ fault, next delimiters last = .error fault) := by
  induction delimiters, start using run.induct generalizing rounds tokens with
  | case1 delimiters start hend => exact ⟨_, _, _, _, h, .inl hend⟩
  | case2 delimiters start hne fault hfault => exact ⟨_, _, _, _, h, .inr ⟨hne, fault, hfault⟩⟩
  | case3 delimiters start hne step hstep _ ih => exact ih (h.more hne hstep)

end Rounds

/-! ## The round of a tag -/

/-- **The round that reads a tag.** The tokens in front of the tag are those of the rounds before
and the plain text of this one; the tokens behind it are those of the run that goes on. -/
structure TagRound (source : Chars) (front : List Token) (tag : Tag) (back : List Token)
    (delimiters : Delimiters) (start : Cursor) (text indent : Chars) (step : Step) : Prop where
  next : next delimiters start = .ok step
  read : TagStep delimiters start text indent tag step
  front : ∃ rounds tokens plain, Rounds source rounds tokens delimiters start
    ∧ front = tokens ++ plain ∧ step.tokens = plain ++ [.tag tag]
  back : run step.delimiters step.cursor = .ok back

/-- **A tag among the tokens of a run** is read by one of its rounds. -/
theorem Rounds.exists_tagRound {source : Chars} {rounds : Nat}
    {tokens earlier front back : List Token} {tag : Tag}
    (h : Rounds source rounds earlier delimiters start) (hrun : run delimiters start = .ok tokens)
    (htokens : tokens = front ++ .tag tag :: back) :
    ∃ delimiters start text indent step,
      TagRound source (earlier ++ front) tag back delimiters start text indent step := by
  refine run_induction (P := fun delimiters start tokens => ∀ rounds earlier front,
      Rounds source rounds earlier delimiters start → tokens = front ++ .tag tag :: back →
      ∃ delimiters start text indent step,
        TagRound source (earlier ++ front) tag back delimiters start text indent step)
    ?_ ?_ hrun rounds earlier front h htokens
  · intro delimiters start _ rounds earlier front _ htokens
    exact absurd htokens.symm (List.append_ne_nil_of_right_ne_nil _ (List.cons_ne_nil _ _))
  · intro delimiters start step others hne hstep hothers ih rounds earlier front h htokens
    rcases List.append_eq_append_iff.mp htokens with ⟨more, rfl, hmore⟩ | ⟨more, htaken, hmore⟩
    · -- the tag is behind this step
      rw [← List.append_assoc]
      exact ih _ _ more (h.more hne hstep) hmore
    · rcases List.cons_eq_append_iff.mp hmore with ⟨rfl, hback⟩ | ⟨last, rfl, rfl⟩
      · rw [List.append_nil] at htaken
        subst htaken
        have hbehind := ih _ _ [] (h.more hne hstep) hback
        rwa [List.append_nil] at hbehind
      · -- the tag of this step is its last token
        rcases next_eq_ok hstep with ⟨-, rfl⟩ | ⟨text, indent, read, hread⟩
        · have hmem : .tag tag ∈ (textStep delimiters start).tokens := by
            rw [htaken]
            exact List.mem_append_right _ List.mem_cons_self
          exact absurd hmem (tag_not_mem_ofText tag _ _)
        · obtain ⟨plain, hplain, hnone⟩ := hread.tokens
          have hsplit := htaken.symm.trans hplain
          rcases List.eq_nil_or_concat last with rfl | ⟨init, token, rfl⟩
          · obtain ⟨rfl, hlast⟩ := List.append_inj' hsplit rfl
            cases hlast
            exact ⟨_, _, _, _, _, hstep, hread, ⟨rounds, earlier, front, h, rfl, htaken⟩, hothers⟩
          · rw [List.concat_eq_append, ← List.cons_append, ← List.append_assoc] at hsplit
            obtain ⟨rfl, -⟩ := List.append_inj' hsplit rfl
            exact absurd (List.mem_append_right _ List.mem_cons_self) (hnone tag)

end Lexer

open Lexer

/-- **A tag of a template** is read by one of the rounds on it. -/
theorem exists_tagRound {source : Chars} {front back : List Token} {tag : Tag}
    (h : tokenize source = .ok (front ++ .tag tag :: back)) :
    ∃ delimiters start text indent step,
      TagRound source front tag back delimiters start text indent step := by
  rw [tokenize_eq_run] at h
  exact Rounds.none.exists_tagRound h rfl

/-- **The tokens of a template** are those that the rounds have at its end. -/
theorem tokenize_eq_ok_iff {source : Chars} {tokens : List Token} :
    tokenize source = .ok tokens ↔ ∃ rounds delimiters last,
      Rounds source rounds tokens delimiters last ∧ last.ahead = [] := by
  rw [tokenize_eq_run]
  constructor
  · intro h
    have hbegin : Rounds source 0 [] .standard (.start source) := .none
    obtain ⟨rounds, others, delimiters, last, hrounds, hend | ⟨hne, fault, hfault⟩⟩ :=
      hbegin.exists_last
    · rw [hrounds.run_eq, run_nil delimiters hend] at h
      have htokens : others ++ [] = tokens := Except.ok.inj h
      rw [List.append_nil] at htokens
      exact ⟨rounds, delimiters, last, htokens ▸ hrounds, hend⟩
    · rw [hrounds.run_eq, run_of_error hne hfault] at h
      cases h
  · rintro ⟨rounds, delimiters, last, hrounds, hend⟩
    rw [hrounds.run_eq, run_nil delimiters hend]
    exact congrArg Except.ok (List.append_nil tokens)

/-- **The fault of a template** is that of the round that fails. -/
theorem tokenize_eq_error_iff {source : Chars} {fault : Fault} :
    tokenize source = .error fault ↔ ∃ rounds tokens delimiters last,
      Rounds source rounds tokens delimiters last ∧ last.ahead ≠ []
        ∧ Lexer.next delimiters last = .error fault := by
  rw [tokenize_eq_run]
  constructor
  · intro h
    have hbegin : Rounds source 0 [] .standard (.start source) := .none
    obtain ⟨rounds, tokens, delimiters, last, hrounds, hend | ⟨hne, fault', hfault⟩⟩ :=
      hbegin.exists_last
    · rw [hrounds.run_eq, run_nil delimiters hend] at h
      cases h
    · rw [hrounds.run_eq, run_of_error hne hfault] at h
      cases h
      exact ⟨rounds, tokens, delimiters, last, hrounds, hne, hfault⟩
  · rintro ⟨rounds, tokens, delimiters, last, hrounds, hne, hfault⟩
    rw [hrounds.run_eq, run_of_error hne hfault]
    rfl

/-- **The lexer ends and makes progress.** After so many rounds the cursor has moved over at least
as many characters, and not past the end, so there are no more rounds than characters. A round asks
for no text behind the cursor. As long as something lies ahead, it fails where a pattern does not
match, or moves the cursor on, with its plain text for tokens and a tag behind it, and nothing but
the plain text where no tag opens. The rounds come to what the template is cut into, or to its
fault. -/
theorem tokenize_progress (source : Chars) :
    (∀ rounds tokens delimiters cursor, Rounds source rounds tokens delimiters cursor →
      rounds ≤ cursor.position ∧ cursor.position ≤ source.length
        ∧ cursor.position ≤ textEnd delimiters cursor
        ∧ (cursor.ahead ≠ [] →
          (∃ offset pattern place, Lexer.next delimiters cursor
              = .error (.malformed (.unmatched offset pattern) place))
            ∨ ∃ step, Lexer.next delimiters cursor = .ok step
              ∧ cursor.position < step.cursor.position
              ∧ step.cursor.position ≤ source.length
              ∧ Gives delimiters cursor step))
      ∧ (∀ tokens, tokenize source = .ok tokens ↔ ∃ rounds delimiters last,
          Rounds source rounds tokens delimiters last ∧ last.ahead = [])
      ∧ ∀ fault, tokenize source = .error fault ↔ ∃ rounds tokens delimiters last,
          Rounds source rounds tokens delimiters last ∧ last.ahead ≠ []
            ∧ Lexer.next delimiters last = .error fault := by
  refine ⟨fun rounds tokens delimiters cursor h => ?_, fun tokens => tokenize_eq_ok_iff,
    fun fault => tokenize_eq_error_iff⟩
  refine ⟨h.le_position, h.position_le, position_le_textEnd _ _, fun hne => ?_⟩
  cases hstep : Lexer.next delimiters cursor with
  | error fault =>
    obtain ⟨offset, pattern, place, rfl⟩ := next_failsUnmatched delimiters cursor fault hstep
    exact .inl ⟨offset, pattern, place, rfl⟩
  | ok step =>
    exact .inr ⟨step, rfl, next_position_lt hstep hne, (h.more hne hstep).position_le,
      next_gives hstep⟩

end Mustache
