import Mustache.Proofs.Lexer.TagStep
import Mustache.Proofs.Node.Linear

/-!
# The delimiters in effect

Which delimiters are in effect at a point of a template can be read off the tags before it: they are
the words of the nearest delimiter tag, and two braces each where there is none
(`Token.inEffect`). The tags of a template are found by these delimiters and no others: each stands
between them, opens at the first place where the opening delimiter stands behind the tag before, and
behind the last tag that delimiter stands nowhere (`tokenize_found`). So no tag is missed, and none
is made up.

The invariant of the run is `Token.Found`: tokens whose tags are found in this way, from an offset
and a pair of delimiters on. It is stated along the tokens, as the pair and the offset change with
each tag.
-/

namespace Mustache

open Text Chars

/-- The two delimiters, as texts. -/
def Delimiters.texts (delimiters : Delimiters) : List Chars :=
  [delimiters.opening.text, delimiters.closing.text]

/-- **A pair of delimiters** is two solid texts. -/
def Chars.IsPair (pair : List Chars) : Prop :=
  ∃ opening closing, pair = [opening, closing] ∧ Solid opening ∧ Solid closing

namespace Delimiters

theorem isPair_texts (delimiters : Delimiters) : IsPair delimiters.texts :=
  ⟨_, _, rfl, delimiters.opening.solid, delimiters.closing.solid⟩

/-- The delimiters that a definition gives are its words. -/
theorem texts_of_ofDefinition? {definition : Chars} {delimiters : Delimiters}
    (h : ofDefinition? definition = some delimiters) :
    words isSpace definition = delimiters.texts := by
  unfold ofDefinition? at h
  split at h
  next opening closing hwords =>
    cases h
    exact hwords
  · cases h

end Delimiters

namespace Tag

/-- **The delimiters in effect behind a tag**: the words of a delimiter tag; any other tag leaves
them. -/
def pairAfter (pair : List Chars) (tag : Tag) : List Chars :=
  if tag.kind? = some .delimiters then words isSpace tag.content else pair

/-- Where the tag ends, with the white space it takes. -/
def endPlace (tag : Tag) : Nat := tag.offset.toNat + tag.core.length + tag.spaceAfter.length

end Tag

namespace Token

/-- **The delimiters in effect behind tokens**: the words of the nearest delimiter tag, or the given
ones when there is none. -/
def inEffect (pair : List Chars) (tokens : List Token) : List Chars :=
  match (tags tokens).reverse.find? (·.kind? = some .delimiters) with
  | some definition => words isSpace definition.content
  | none => pair

/-- Where the last tag of tokens ends, or the given offset when there is none. -/
def endOfTags (start : Nat) (tokens : List Token) : Nat :=
  match (tags tokens).getLast? with
  | some piece => piece.endPlace
  | none => start

@[simp] theorem inEffect_nil (pair : List Chars) : inEffect pair [] = pair := rfl

@[simp] theorem endOfTags_nil (start : Nat) : endOfTags start [] = start := rfl

@[simp] theorem inEffect_text (pair : List Chars) (plain : Chars) (offset : Int)
    (tokens : List Token) : inEffect pair (.text plain offset :: tokens) = inEffect pair tokens :=
  rfl

@[simp] theorem endOfTags_text (start : Nat) (plain : Chars) (offset : Int)
    (tokens : List Token) : endOfTags start (.text plain offset :: tokens) = endOfTags start tokens :=
  rfl

theorem tags_tag (tag : Tag) (tokens : List Token) :
    tags (.tag tag :: tokens) = tag :: tags tokens := rfl

/-- Behind a tag its own delimiters are in effect, unless a later tag changes them. -/
theorem inEffect_tag (pair : List Chars) (tag : Tag) (tokens : List Token) :
    inEffect pair (.tag tag :: tokens) = inEffect (tag.pairAfter pair) tokens := by
  unfold inEffect Tag.pairAfter
  rw [tags_tag, List.reverse_cons, List.find?_append]
  cases (tags tokens).reverse.find? (·.kind? = some .delimiters) with
  | some definition => rfl
  | none => by_cases hkind : tag.kind? = some .delimiters <;> simp [hkind]

/-- Plain text leaves the delimiters in effect. -/
theorem inEffect_plain (pair : List Chars) {plain : List Token} (h : ∀ tag, .tag tag ∉ plain) :
    inEffect pair plain = pair := by
  induction plain with
  | nil => rfl
  | cons token plain ih =>
    cases token with
    | tag tag => exact absurd List.mem_cons_self (h tag)
    | text text offset => exact ih fun tag hmem => h tag (List.mem_cons_of_mem _ hmem)

/-- Behind more tokens those are in effect that they leave of the ones before. -/
theorem inEffect_append (pair : List Chars) (before after : List Token) :
    inEffect pair (before ++ after) = inEffect (inEffect pair before) after := by
  induction before generalizing pair with
  | nil => rfl
  | cons token before ih =>
    cases token with
    | text text offset => exact ih pair
    | tag tag => rw [List.cons_append, inEffect_tag, inEffect_tag, ih]

theorem endOfTags_tag (start : Nat) (tag : Tag) (tokens : List Token) :
    endOfTags start (.tag tag :: tokens) = endOfTags tag.endPlace tokens := by
  unfold endOfTags
  rw [tags_tag, List.getLast?_cons]
  cases (tags tokens).getLast? <;> rfl

/-! ## Tags found -/

/-- **The tags of the tokens are found** by the delimiters in effect, from an offset on, and behind
the last of them there is none. -/
def Found (source : Chars) (pair : List Chars) (start : Nat) : List Token → Prop
  | [] => IsPair pair ∧ ∀ opening ∈ pair.head?, ∀ n, start ≤ n → ¬ opening <+: source.drop n
  | .text _ _ :: rest => Found source pair start rest
  | .tag piece :: rest => IsPair pair ∧ pair = [piece.openTag, piece.closeTag]
      ∧ (∃ place : Nat, piece.offset = place ∧ FirstFrom piece.openTag source start place)
      ∧ Found source (piece.pairAfter pair) piece.endPlace rest

variable {source : Chars} {pair : List Chars} {start : Nat}

/-- In plain text no tag is found. -/
theorem found_append_iff {plain rest : List Token} (h : ∀ tag, .tag tag ∉ plain) :
    Found source pair start (plain ++ rest) ↔ Found source pair start rest := by
  induction plain with
  | nil => rfl
  | cons token plain ih =>
    cases token with
    | tag tag => exact absurd List.mem_cons_self (h tag)
    | text text offset => exact ih fun tag hmem => h tag (List.mem_cons_of_mem _ hmem)

/-- **Behind some of the tokens**, the tags of the others are found by the delimiters in effect
there, from the end of the last tag on. -/
theorem Found.behind {before after : List Token} (h : Found source pair start (before ++ after)) :
    Found source (inEffect pair before) (endOfTags start before) after := by
  induction before generalizing pair start with
  | nil =>
    rw [inEffect_nil, endOfTags_nil]
    exact h
  | cons token before ih =>
    cases token with
    | text text offset =>
      rw [inEffect_text, endOfTags_text]
      exact ih h
    | tag tag =>
      rw [inEffect_tag, endOfTags_tag]
      exact ih h.2.2.2

/-- Tags are found by a pair of delimiters. -/
theorem Found.isPair {tokens : List Token} (h : Found source pair start tokens) : IsPair pair := by
  induction tokens with
  | nil => exact h.1
  | cons token tokens ih =>
    cases token with
    | text text offset => exact ih h
    | tag tag => exact h.1

end Token

namespace Lexer

open Token

variable {delimiters : Delimiters} {start : Cursor}

namespace TagStep

variable {text indent : Chars} {tag : Tag} {step : Step}

/-- **The delimiters after a step** are those in effect behind its tag. -/
theorem pairAfter (h : TagStep delimiters start text indent tag step) :
    tag.pairAfter delimiters.texts = step.delimiters.texts := by
  have hafter := h.delimiters
  unfold delimitersAfter at hafter
  unfold Tag.pairAfter
  split at hafter
  next hkind =>
    rw [if_pos hkind]
    split at hafter
    next defined hdefined =>
      cases hafter
      exact Delimiters.texts_of_ofDefinition? hdefined
    · cases hafter
  next hkind =>
    rw [if_neg hkind]
    cases hafter
    rfl

/-- The step ends where its tag does. -/
theorem endPlace (h : TagStep delimiters start text indent tag step) :
    tag.endPlace = step.cursor.position := h.position_cursor.symm

/-- **The tag of a step opens at the first place** where the opening delimiter stands. -/
theorem firstFrom (h : TagStep delimiters start text indent tag step) :
    FirstFrom tag.openTag start.source start.position
      (start.position + (text.length + indent.length)) := by
  have hfound := h.opening.offset
  rw [start.ahead_eq_drop] at hfound
  rw [h.openTag]
  exact firstFrom_of_offsetOf? hfound

/-- A tag read, and tags found behind it. -/
theorem found (h : TagStep delimiters start text indent tag step) {others : List Token}
    (hothers : Found start.source step.delimiters.texts step.cursor.position others) :
    Found start.source delimiters.texts start.position (step.tokens ++ others) := by
  obtain ⟨plain, htokens, hplain⟩ := h.tokens
  rw [htokens, List.append_assoc, found_append_iff hplain]
  refine ⟨delimiters.isPair_texts, ?_, ⟨_, h.offset, h.firstFrom⟩, ?_⟩
  · rw [h.openTag, h.closeTag]
    rfl
  · rw [h.pairAfter, h.endPlace]
    exact hothers

end TagStep

/-- Where no opening delimiter stands ahead, no tag is found. -/
theorem found_of_offsetOf? {tokens : List Token}
    (h : offsetOf? delimiters.opening.text start.ahead = none)
    (hplain : ∀ tag, .tag tag ∉ tokens) :
    Found start.source delimiters.texts start.position tokens := by
  rw [start.ahead_eq_drop] at h
  rw [← List.append_nil tokens, found_append_iff hplain]
  refine ⟨delimiters.isPair_texts, fun opening hopening => ?_⟩
  cases hopening
  exact not_isPrefix_of_offsetOf? h

/-- **The tags of a run are found** by the delimiters in effect. -/
theorem run_found {tokens : List Token} (h : run delimiters start = .ok tokens) :
    Found start.source delimiters.texts start.position tokens := by
  refine run_induction (P := fun delimiters start tokens =>
    Found start.source delimiters.texts start.position tokens) ?_ ?_ h
  · intro delimiters start hend
    refine found_of_offsetOf? ?_ fun _ => List.not_mem_nil
    rw [hend]
    exact offsetOf?_nil delimiters.opening.solid
  · intro delimiters start step others _ hnext hrun ih
    rcases next_eq_ok hnext with ⟨hnone, rfl⟩ | ⟨text, indent, tag, hstep⟩
    · rw [run_nil _ (ahead_textStep delimiters start)] at hrun
      cases hrun
      rw [List.append_nil]
      exact found_of_offsetOf? hnone fun tag => tag_not_mem_ofText tag _ _
    · refine hstep.found ?_
      rw [← hstep.source]
      exact ih

end Lexer

/-- **No tag is missed and none is made up.** Each tag stands between the delimiters in effect, at the
first place of the opening one behind the tag before; behind the last tag the opening delimiter
stands nowhere; and what is in effect is everywhere two texts that are not empty and hold no white
space. -/
theorem tokenize_found {source : Chars} {tokens : List Token} (h : tokenize source = .ok tokens) :
    (∀ (before : List Token) (tag : Tag) (after : List Token),
        tokens = before ++ .tag tag :: after →
        Token.inEffect Delimiters.standard.texts before = [tag.openTag, tag.closeTag]
          ∧ ∃ place : Nat, tag.offset = place
            ∧ FirstFrom tag.openTag source (Token.endOfTags 0 before) place)
      ∧ (∃ opening closing,
          Token.inEffect Delimiters.standard.texts tokens = [opening, closing]
            ∧ ∀ n, Token.endOfTags 0 tokens ≤ n → ¬ opening <+: source.drop n)
      ∧ ∀ before after, tokens = before ++ after →
          ∃ opening closing, Token.inEffect Delimiters.standard.texts before = [opening, closing]
            ∧ Solid opening ∧ Solid closing := by
  rw [tokenize_eq_run] at h
  have hfound : Token.Found source Delimiters.standard.texts 0 tokens := Lexer.run_found h
  refine ⟨?_, ?_, ?_⟩
  · rintro before tag after rfl
    obtain ⟨-, hpair, hplace, -⟩ := hfound.behind
    exact ⟨hpair, hplace⟩
  · rw [← List.append_nil tokens] at hfound
    obtain ⟨⟨opening, closing, hpair, -, -⟩, hnone⟩ := hfound.behind
    rw [hpair] at hnone
    exact ⟨opening, closing, hpair, hnone opening rfl⟩
  · rintro before after rfl
    exact hfound.behind.isPair

/-- Delimiters that are changed and changed back: what stands between the others is plain text. -/
theorem tokenize_found_changed_back :
    let source : Chars :=
      "\x7b\x7b=$ ^=\x7d\x7d\x7b\x7bx\x7d\x7d $a^\n$=\x7b\x7b \x7d\x7d=^\x7b\x7bb\x7d\x7d$".toList
    let before : List Token := [
      .tag ⟨['{', '{'], ['='], [], ['$', ' ', '^'], [], ['='], ['}', '}'], [], [], false, 0⟩,
      .text ['{', '{', 'x', '}', '}'] 9, .text [' '] 14,
      .tag ⟨['$'], [], [], ['a'], [], [], ['^'], [], [], false, 15⟩,
      .text ['\n'] 18,
      .tag ⟨['$'], ['='], [], ['{', '{', ' ', '}', '}'], [], ['='], ['^'], [], [], false, 19⟩]
    let tag : Tag := ⟨['{', '{'], [], [], ['b'], [], [], ['}', '}'], [], [], false, 28⟩
    let tokens : List Token := before ++ .tag tag :: [.text ['$'] 33]
    tokenize source = .ok tokens
      ∧ Token.inEffect Delimiters.standard.texts before = [['{', '{'], ['}', '}']]
      ∧ (∃ place : Nat, tag.offset = place ∧ FirstFrom ['{', '{'] source 28 place)
      ∧ ∀ n, 33 ≤ n → ¬ ['{', '{'] <+: source.drop n := by
  intro source before tag tokens
  have htokens : tokenize source = .ok tokens := by
    rw [tokenize_eq_runWithin]
    decide +kernel
  obtain ⟨htags, ⟨opening, closing, hpair, hnone⟩, -⟩ := tokenize_found htokens
  obtain ⟨htag, hplace⟩ := htags before tag _ rfl
  have hlast : Token.inEffect Delimiters.standard.texts tokens = [['{', '{'], ['}', '}']] := by
    decide
  rw [hlast] at hpair
  cases hpair
  exact ⟨htokens, htag, hplace, hnone⟩

end Mustache
