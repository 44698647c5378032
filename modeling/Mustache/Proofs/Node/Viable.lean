import Mustache.Proofs.Lexer.InEffect
import Mustache.Proofs.Node.Nesting

/-!
# Where tokens stop being well nested

Tokens are **accepted** when a document is read from them, and **viable** when more tokens behind
them make them so. The reader takes tokens as long as they are viable, and no further: a fault of
nesting names the first tag that no accepted tokens have there, or, when all the tokens are viable,
the tag of the innermost block that is still open (`Document.ofTokens_eq_error`).

Which blocks are open after tokens is said without the reader (`Token.Nested`): each is a tag that
opens a block, with accepted tokens between it and the next. The reader is followed by the tags
alone, as a pushdown machine (`Token.nest`). That its states are the open blocks
(`Token.nested_iff`), and that each of them can be emptied by closing tags (`Token.viable_iff`),
carries everything else.
-/

namespace Mustache

open Text Chars

/-- The tag opens a block. -/
def Tag.Opens (tag : Tag) : Prop := tag.kind? = some .opening ∨ tag.kind? = some .inverted

/-- A tag that closes the block of another. -/
def Tag.closer (tag : Tag) : Tag := { tag with sigil := TagKind.closing.sigil }

theorem Tag.kind?_closer (tag : Tag) : tag.closer.kind? = some .closing :=
  TagKind.ofSigil?_sigil .closing

namespace Token

/-- **Accepted tokens**: a document is read from them. -/
def Accepted (tokens : List Token) : Prop :=
  ∃ document, Document.ofTokens tokens [] = .ok document

/-- **Viable tokens**: with more tokens behind them they are accepted. -/
def Viable (tokens : List Token) : Prop := ∃ rest, Accepted (tokens ++ rest)

/-- **The blocks that tokens leave open**, by their tags, innermost first: behind each of these tags
the tokens are accepted, up to the tag of the next block inside it or to the end. -/
inductive Nested : List Token → List Tag → Prop
  | accepted {tokens : List Token} (h : Accepted tokens) : Nested tokens []
  | block {before inner : List Token} {tag : Tag} {opened : List Tag} (h : Nested before opened)
      (hopens : tag.Opens) (hinner : Accepted inner) :
      Nested (before ++ .tag tag :: inner) (tag :: opened)

end Token

/-! ## The machine of open blocks -/

namespace Tag

/-- **One more tag**, to the blocks that are open. -/
def nest (opened : List Tag) (tag : Tag) : Option (List Tag) :=
  match tag.kind? with
  | none => none
  | some .opening | some .inverted => some (tag :: opened)
  | some .closing =>
    match opened with
    | [] => none
    | first :: others => if first.content = tag.content then some others else none
  | some _ => some opened

theorem nest_of_opens {tag : Tag} (h : tag.Opens) (opened : List Tag) :
    tag.nest opened = some (tag :: opened) := by
  unfold nest
  rcases h with h | h <;> rw [h]

theorem nest_closer (first : Tag) (others : List Tag) :
    first.closer.nest (first :: others) = some others := by
  unfold nest
  rw [first.kind?_closer]
  exact if_pos rfl

/-- Blocks further out do not matter to a tag that is taken. -/
theorem nest_append {opened opened' : List Tag} {tag : Tag} (h : tag.nest opened = some opened')
    (below : List Tag) : tag.nest (opened ++ below) = some (opened' ++ below) := by
  unfold nest at h ⊢
  cases hkind : tag.kind? with
  | none =>
    rw [hkind] at h
    cases h
  | some kind =>
    rw [hkind] at h
    cases kind with
    | closing =>
      cases opened with
      | nil => cases h
      | cons first others =>
        simp only at h
        split at h <;> cases h
        next hname => exact if_pos hname
    | _ =>
      cases h
      rfl

end Tag

namespace Token

/-- One more token, to the blocks that are open. -/
def nest (opened : List Tag) : Token → Option (List Tag)
  | .text .. => some opened
  | .tag piece => piece.nest opened

variable {opened opened' : List Tag} {token : Token} {tokens : List Token}

theorem nest_append (h : nest opened token = some opened') (below : List Tag) :
    nest (opened ++ below) token = some (opened' ++ below) := by
  cases token with
  | text plain offset =>
    cases h
    rfl
  | tag tag => exact Tag.nest_append h below

theorem foldlM_nest_append (h : tokens.foldlM nest opened = some opened') (below : List Tag) :
    tokens.foldlM nest (opened ++ below) = some (opened' ++ below) := by
  induction tokens generalizing opened with
  | nil =>
    cases h
    rfl
  | cons token tokens ih =>
    rw [List.foldlM_cons] at h ⊢
    obtain ⟨middle, htoken, hrest⟩ := Option.bind_eq_some_iff.mp h
    exact Option.bind_eq_some_iff.mpr ⟨_, nest_append htoken below, ih hrest⟩

/-- The open blocks are closed one after the other. -/
theorem foldlM_nest_closers (opened : List Tag) :
    (opened.map fun tag => Token.tag tag.closer).foldlM nest opened = some [] := by
  induction opened with
  | nil => rfl
  | cons first others ih =>
    rw [List.map_cons, List.foldlM_cons]
    show first.closer.nest (first :: others) >>= _ = _
    rw [first.nest_closer]
    exact ih

end Token

/-! ## The reader by its open blocks -/

namespace Builder

open Token

variable {builder : Builder} {source : Chars} {token : Token} {tokens : List Token} {fault : Fault}

/-- The tags of the open blocks, innermost first. -/
def openTags (builder : Builder) : List Tag := builder.enclosing.map OpenBlock.tag

/-- **The reader takes a token** as the machine does. -/
theorem openTags_read (builder : Builder) (source : Chars) (token : Token) :
    (builder.read source token).toOption.map openTags = nest builder.openTags token := by
  cases token with
  | text plain offset => rfl
  | tag tag =>
    show (builder.readTag source tag).toOption.map openTags = tag.nest builder.openTags
    unfold readTag Tag.nest
    cases tag.kind? with
    | none => rfl
    | some kind =>
      cases kind with
      | closing =>
        show (builder.closeBlock source tag).toOption.map openTags = _
        unfold closeBlock openTags
        cases builder.enclosing with
        | nil => rfl
        | cons block enclosing =>
          by_cases hname : block.tag.content = tag.content
          · simp only [List.map_cons, OpenBlock.name, hname, if_true]
            rfl
          · simp only [List.map_cons, OpenBlock.name, hname, if_false]
            rfl
      | _ => rfl

/-- **The reader takes tokens** as the machine does. -/
theorem openTags_foldlM (builder : Builder) (source : Chars) (tokens : List Token) :
    (tokens.foldlM (read source) builder).toOption.map openTags
      = tokens.foldlM nest builder.openTags := by
  induction tokens generalizing builder with
  | nil => rfl
  | cons token tokens ih =>
    rw [List.foldlM_cons, List.foldlM_cons, ← openTags_read builder source token]
    cases builder.read source token with
    | error fault => rfl
    | ok next => exact ih next

/-- A document is read when no block is open. -/
theorem isOk_finish_iff (builder : Builder) (source : Chars) :
    (∃ document, builder.finish source = .ok document) ↔ builder.openTags = [] := by
  unfold finish openTags
  cases builder.enclosing <;> simp

/-- **A token that is not taken** is a closing tag. The fault names it, and the innermost open block
if there is one. -/
theorem read_eq_error (hknown : token.IsKnown) (h : builder.read source token = .error fault) :
    ∃ tag cause, token = .tag tag ∧ tag.kind? = some .closing
      ∧ fault = .malformed cause (placeOf source tag) ∧ cause.found? = some tag.content
      ∧ cause.expected? = builder.openTags.head?.map Tag.content := by
  cases token with
  | text plain offset => cases h
  | tag tag =>
    obtain ⟨kind, hkind⟩ := Option.isSome_iff_exists.mp hknown
    have h : builder.readTag source tag = .error fault := h
    unfold readTag at h
    rw [hkind] at h
    cases kind with
    | closing =>
      have h : builder.closeBlock source tag = .error fault := h
      unfold closeBlock at h
      unfold openTags
      split at h
      next henclosing =>
        cases h
        rw [henclosing]
        exact ⟨tag, _, rfl, hkind, rfl, rfl, rfl⟩
      next block enclosing henclosing =>
        split at h <;> cases h
        rw [henclosing]
        exact ⟨tag, _, rfl, hkind, rfl, rfl, rfl⟩
    | _ => cases h

/-- **Tokens that are not taken**: the tokens before one of them are, and it is not. -/
theorem foldlM_eq_error (h : tokens.foldlM (read source) builder = .error fault) :
    ∃ before token after next, tokens = before ++ token :: after
      ∧ before.foldlM (read source) builder = .ok next ∧ next.read source token = .error fault := by
  induction tokens generalizing builder with
  | nil => cases h
  | cons token tokens ih =>
    rw [List.foldlM_cons] at h
    rcases bind_eq_error.mp h with htoken | ⟨middle, htoken, hrest⟩
    · exact ⟨[], token, tokens, builder, rfl, rfl, htoken⟩
    · obtain ⟨before, other, after, next, rfl, hbefore, hother⟩ := ih hrest
      refine ⟨token :: before, other, after, next, rfl, ?_, hother⟩
      rw [List.foldlM_cons, htoken]
      exact hbefore

/-- The tree of the tokens read so far has the open blocks of the machine. -/
theorem nest_of_foldlM {next : Builder} (h : tokens.foldlM (read source) .empty = .ok next) :
    tokens.foldlM nest [] = some next.openTags := by
  have hnest := openTags_foldlM .empty source tokens
  rw [h] at hnest
  exact hnest.symm

end Builder

namespace Token

variable {opened : List Tag} {tokens : List Token}

/-- **A document is read** when every block is closed, whatever the template is. -/
theorem exists_ofTokens_iff (tokens : List Token) (source : Chars) :
    (∃ document, Document.ofTokens tokens source = .ok document)
      ↔ tokens.foldlM nest [] = some [] := by
  have hnest := Builder.openTags_foldlM .empty source tokens
  unfold Document.ofTokens
  cases hread : tokens.foldlM (Builder.read source) .empty with
  | error fault =>
    rw [hread] at hnest
    rw [show tokens.foldlM nest [] = none from hnest.symm]
    refine iff_of_false ?_ nofun
    rintro ⟨document, h⟩
    cases h
  | ok builder =>
    rw [show tokens.foldlM nest [] = some builder.openTags from Builder.nest_of_foldlM hread,
      Option.some.injEq, ← Builder.isOk_finish_iff builder source]
    rfl

theorem accepted_iff : Accepted tokens ↔ tokens.foldlM nest [] = some [] :=
  exists_ofTokens_iff tokens []

/-- **Viable tokens** are those that the machine takes: their open blocks can be closed. -/
theorem viable_iff : Viable tokens ↔ ∃ opened, tokens.foldlM nest [] = some opened := by
  constructor
  · rintro ⟨rest, h⟩
    rw [accepted_iff, List.foldlM_append] at h
    obtain ⟨opened, hopened, -⟩ := Option.bind_eq_some_iff.mp h
    exact ⟨opened, hopened⟩
  · rintro ⟨opened, hopened⟩
    refine ⟨opened.map fun tag => .tag tag.closer, ?_⟩
    rw [accepted_iff, List.foldlM_append, hopened]
    exact foldlM_nest_closers opened

/-- A token that the machine does not take makes tokens unviable. -/
theorem not_viable_concat {token : Token} (htokens : tokens.foldlM nest [] = some opened)
    (htoken : nest opened token = none) : ¬ Viable (tokens ++ [token]) := by
  rw [viable_iff, List.foldlM_append, htokens]
  rintro ⟨last, hlast⟩
  obtain ⟨next, hnext, -⟩ := Option.bind_eq_some_iff.mp
    (show (nest opened token).bind (List.foldlM nest · []) = some last from hlast)
  rw [htoken] at hnext
  cases hnext

/-- The front of viable tokens is viable. -/
theorem Viable.of_isPrefix {front : List Token} (h : Viable tokens) (hfront : front <+: tokens) :
    Viable front := by
  obtain ⟨rest, rfl⟩ := hfront
  obtain ⟨others, hothers⟩ := h
  exact ⟨rest ++ others, by rwa [← List.append_assoc]⟩

/-! ## The open blocks -/

/-- Accepted tokens leave every block as it is. -/
theorem Accepted.foldlM_nest (h : Accepted tokens) (opened : List Tag) :
    tokens.foldlM nest opened = some opened :=
  foldlM_nest_append (accepted_iff.mp h) opened

theorem Accepted.append {left right : List Token} (hleft : Accepted left)
    (hright : Accepted right) : Accepted (left ++ right) := by
  rw [accepted_iff, List.foldlM_append, hleft.foldlM_nest]
  exact hright.foldlM_nest []

/-- Accepted tokens behind others leave the same blocks open. -/
theorem Nested.append (h : Nested tokens opened) {more : List Token} (hmore : Accepted more) :
    Nested (tokens ++ more) opened := by
  cases h with
  | accepted h => exact .accepted (h.append hmore)
  | block hbefore hopens hinner =>
    rw [List.append_assoc, List.cons_append]
    exact .block hbefore hopens (hinner.append hmore)

/-- **What one more token does**: it opens a block, closes the innermost one, or is accepted by
itself. -/
theorem nest_cases {token : Token} {next : List Tag} (h : nest opened token = some next) :
    (∃ tag, token = .tag tag ∧ tag.Opens ∧ next = tag :: opened)
      ∨ (∃ first, nest [first] token = some [] ∧ opened = first :: next)
      ∨ Accepted [token] ∧ next = opened := by
  have hsame (hself : nest [] token = some []) : Accepted [token] := by
    rw [accepted_iff, List.foldlM_cons, hself]
    rfl
  cases token with
  | text plain offset =>
    cases h
    exact .inr (.inr ⟨hsame rfl, rfl⟩)
  | tag tag =>
    simp only [nest, Tag.nest] at h hsame ⊢
    cases hkind : tag.kind? with
    | none =>
      rw [hkind] at h
      cases h
    | some kind =>
      rw [hkind] at h hsame
      cases kind with
      | opening =>
        cases h
        exact .inl ⟨tag, rfl, .inl hkind, rfl⟩
      | inverted =>
        cases h
        exact .inl ⟨tag, rfl, .inr hkind, rfl⟩
      | closing =>
        cases opened with
        | nil => cases h
        | cons first others =>
          simp only at h
          split at h <;> cases h
          next hname => exact .inr (.inl ⟨first, if_pos hname, rfl⟩)
      | _ =>
        cases h
        exact .inr (.inr ⟨hsame rfl, rfl⟩)

/-- **One more token** changes the open blocks as it changes those of the machine. -/
theorem Nested.concat (h : Nested tokens opened) {token : Token} {next : List Tag}
    (hnest : nest opened token = some next) : Nested (tokens ++ [token]) next := by
  rcases nest_cases hnest with ⟨tag, rfl, hopens, rfl⟩ | ⟨first, hcloses, rfl⟩ | ⟨htoken, rfl⟩
  · exact .block h hopens (accepted_iff.mpr rfl)
  · -- the block is closed, and is accepted with its two tags
    cases h with
    | @block before inner tag _ hbefore hopens hinner =>
      rw [List.append_assoc, List.cons_append]
      refine hbefore.append (accepted_iff.mpr ?_)
      show first.nest [] >>= _ = _
      rw [Tag.nest_of_opens hopens]
      show (inner ++ [token]).foldlM nest [first] = _
      rw [List.foldlM_append, hinner.foldlM_nest]
      show nest [first] token >>= _ = _
      rw [hcloses]
      rfl
  · exact h.append htoken

/-- **The states of the machine are the open blocks.** -/
theorem nested_iff : Nested tokens opened ↔ tokens.foldlM nest [] = some opened := by
  constructor
  · intro h
    induction h with
    | accepted h => exact accepted_iff.mp h
    | @block before inner tag opened _ hopens hinner ih =>
      rw [List.foldlM_append, ih]
      show tag.nest opened >>= _ = _
      rw [Tag.nest_of_opens hopens]
      exact hinner.foldlM_nest _
  · intro h
    induction tokens using List.reverseRecOn generalizing opened with
    | nil =>
      cases h
      exact .accepted (accepted_iff.mpr rfl)
    | append_singleton tokens token ih =>
      rw [List.foldlM_append] at h
      obtain ⟨middle, hmiddle, htoken⟩ := Option.bind_eq_some_iff.mp h
      rw [List.foldlM_cons] at htoken
      obtain ⟨next, hnext, hlast⟩ := Option.bind_eq_some_iff.mp htoken
      cases hlast
      exact (ih hmiddle).concat hnext

/-! ## The tag at fault -/

/-- **The tag at fault**, with the names that go with it: of the block that should be closed there,
and of the one that is. -/
inductive AtFault (tokens : List Token) (tag : Tag) : Option Chars → Option Chars → Prop
  /-- The tag closes a block, and is the first token that no accepted tokens have in its place. The
  innermost block open before it, if any, should be closed. -/
  | closing {before after : List Token} {opened : List Tag}
      (htokens : tokens = before ++ .tag tag :: after) (hkind : tag.kind? = some .closing)
      (hviable : Viable before) (hnot : ¬ Viable (before ++ [.tag tag]))
      (hfirst : ∀ before' token after', tokens = before' ++ token :: after' →
        Viable before' → ¬ Viable (before' ++ [token]) → before' = before)
      (hopened : Nested before opened) :
      AtFault tokens tag (opened.head?.map Tag.content) (some tag.content)
  /-- The tokens are viable, and the tag is that of the innermost block they leave open. -/
  | unclosed {opened : List Tag} (hviable : Viable tokens) (hopened : Nested tokens (tag :: opened)) :
      AtFault tokens tag (some tag.content) none

/-- **Tokens stop being viable at one place** at most. -/
theorem eq_of_not_viable {before before' after after' : List Token} {token token' : Token}
    (h : before ++ token :: after = before' ++ token' :: after') (hviable : Viable before)
    (hnot : ¬ Viable (before ++ [token])) (hviable' : Viable before')
    (hnot' : ¬ Viable (before' ++ [token'])) : before' = before := by
  have hfront : before ++ [token] <+: before ++ token :: after := ⟨after, List.append_assoc _ _ _⟩
  have hfront' : before' ++ [token'] <+: before ++ token :: after :=
    ⟨after', by rw [h]; exact List.append_assoc _ _ _⟩
  rcases Nat.lt_trichotomy before'.length before.length with hlt | heq | hlt
  · refine absurd (hviable.of_isPrefix ?_) hnot'
    refine List.prefix_of_prefix_length_le hfront' (List.prefix_append _ _) ?_
    rw [List.length_append]
    exact hlt
  · exact (List.append_inj h heq.symm).1.symm
  · refine absurd (hviable'.of_isPrefix ?_) hnot
    refine List.prefix_of_prefix_length_le hfront (h ▸ List.prefix_append _ _) ?_
    rw [List.length_append]
    exact hlt

/-- **The tags of a template stand in it**, each at its offset. -/
theorem exists_place {source : Chars} (h : tokenize source = .ok tokens) {tag : Tag}
    (hmem : .tag tag ∈ tokens) :
    ∃ place : Nat, tag.offset = place ∧ place < source.length
      ∧ tag.openTag <+: source.drop place := by
  rw [tokenize_eq_run] at h
  have hfound : Found source Delimiters.standard.texts 0 tokens := Lexer.run_found h
  obtain ⟨before, after, rfl⟩ := List.append_of_mem hmem
  obtain ⟨hpair, htexts, ⟨place, hoffset, hfirst⟩, -⟩ := hfound.behind
  obtain ⟨opening, closing, hopening, hsolid, -⟩ := hpair
  rw [htexts] at hopening
  cases hopening
  refine ⟨place, hoffset, Nat.lt_of_not_le fun hge => ?_, hfirst.stands⟩
  have hstands := hfirst.stands
  rw [List.drop_of_length_le hge] at hstands
  exact hsolid.1 (List.prefix_nil.mp hstands)

end Token

/-- **The place of a tag of a template** is the line and the column of its opening delimiter. -/
theorem Builder.exists_placeOf {source : Chars} {tokens : List Token}
    (h : tokenize source = .ok tokens) {tag : Tag} (hmem : .tag tag ∈ tokens) :
    ∃ place : Nat, tag.offset = place ∧ tag.openTag <+: source.drop place
      ∧ placeOf source tag = .ofPosition ⟨(source.take place).count '\n' + 1,
        ((lastLine (source.take place)).length + 1 : Nat)⟩ := by
  obtain ⟨place, hoffset, hlt, hopens⟩ := Token.exists_place h hmem
  refine ⟨place, hoffset, hopens, ?_⟩
  have hne : source ≠ [] := List.ne_nil_of_length_pos (Nat.zero_lt_of_lt hlt)
  rw [placeOf, if_neg hne, hoffset, Position.ofOffset_eq (Nat.le_of_lt hlt)]

namespace Document

open Token

/-- **A fault of nesting names the first tag at fault.** The tokens are viable up to a closing tag,
and not with it: the fault names that tag and the innermost block open before it, if there is one.
Or all the tokens are viable: the fault names the innermost block that they leave open. When the
tokens are those of the template, the place of the fault is the line and the column of the tag's
opening delimiter. -/
theorem ofTokens_eq_error {tokens : List Token} {source : Chars} {fault : Fault}
    (hknown : ∀ token ∈ tokens, token.IsKnown) (h : ofTokens tokens source = .error fault) :
    ∃ cause tag, fault = .malformed cause (Builder.placeOf source tag) ∧ fault.kind = .parse
      ∧ AtFault tokens tag cause.expected? cause.found?
      ∧ (tokenize source = .ok tokens → ∃ place : Nat, tag.offset = place
        ∧ tag.openTag <+: source.drop place
        ∧ Builder.placeOf source tag = .ofPosition ⟨(source.take place).count '\n' + 1,
          ((lastLine (source.take place)).length + 1 : Nat)⟩) := by
  have hkind := kind_of_ofTokens_error hknown h
  unfold ofTokens at h
  rcases bind_eq_error.mp h with hread | ⟨builder, hread, hfinish⟩
  · obtain ⟨before, token, after, builder, rfl, hbefore, htoken⟩ := Builder.foldlM_eq_error hread
    have hmem : token ∈ before ++ token :: after := List.mem_append_right _ List.mem_cons_self
    obtain ⟨tag, cause, rfl, hclosing, hfault, hfound, hexpected⟩ :=
      Builder.read_eq_error (hknown token hmem) htoken
    have hnest := Builder.nest_of_foldlM hbefore
    have hviable : Viable before := viable_iff.mpr ⟨_, hnest⟩
    have hnot : ¬ Viable (before ++ [.tag tag]) := by
      refine not_viable_concat hnest ?_
      rw [← Builder.openTags_read builder source, htoken]
      rfl
    refine ⟨cause, tag, hfault, hkind, ?_, fun htokens => Builder.exists_placeOf htokens hmem⟩
    rw [hfound, hexpected]
    exact .closing rfl hclosing hviable hnot
      (fun _ _ _ htokens => eq_of_not_viable htokens hviable hnot) (nested_iff.mpr hnest)
  · have hnest := Builder.nest_of_foldlM hread
    unfold Builder.finish at hfinish
    split at hfinish <;> cases hfinish
    next block enclosing henclosing =>
      have hopened : Nested tokens (block.tag :: enclosing.map OpenBlock.tag) := by
        rw [nested_iff, hnest, Builder.openTags, henclosing]
        rfl
      refine ⟨_, block.tag, rfl, hkind, .unclosed (viable_iff.mpr ⟨_, hnest⟩) hopened,
        fun htokens => Builder.exists_placeOf htokens ?_⟩
      cases hopened with
      | block => exact List.mem_append_right _ List.mem_cons_self

/-- A block that is closed while another is open inside it, on the second line of a template. -/
theorem ofTokens_eq_error_crossed :
    let tag (sigil : Char) (name : Char) (offset : Int) : Tag :=
      ⟨['{', '{'], [sigil], [], [name], [], [], ['}', '}'], [], [], false, offset⟩
    let source : Chars := "x\n\x7b\x7b#a\x7d\x7d\x7b\x7b^b\x7d\x7dy\x7b\x7b/a\x7d\x7d".toList
    let tokens : List Token := [.text ['x', '\n'] 0, .tag (tag '#' 'a' 2), .tag (tag '^' 'b' 8),
      .text ['y'] 14, .tag (tag '/' 'a' 15)]
    tokenize source = .ok tokens ∧ (∀ token ∈ tokens, token.IsKnown)
      ∧ ofTokens tokens source
        = .error (.malformed (.mismatchedClose ['b'] ['a']) (.ofPosition ⟨2, 14⟩))
      ∧ ∃ tag, AtFault tokens tag (some ['b']) (some ['a'])
        ∧ ∃ place : Nat, tag.offset = place ∧ tag.openTag <+: source.drop place
          ∧ Builder.placeOf source tag = .ofPosition ⟨2, 14⟩ := by
  intro tag source tokens
  have htokens : tokenize source = .ok tokens := by
    rw [tokenize_eq_runWithin]
    decide +kernel
  have hknown : ∀ token ∈ tokens, token.IsKnown := by decide
  have herror : ofTokens tokens source
      = .error (.malformed (.mismatchedClose ['b'] ['a']) (.ofPosition ⟨2, 14⟩)) := rfl
  obtain ⟨cause, found, hfault, -, hat, hplace⟩ := ofTokens_eq_error hknown herror
  obtain ⟨place, hoffset, hopens, -⟩ := hplace htokens
  injection hfault with hcause hposition
  subst hcause
  exact ⟨htokens, hknown, herror, found, hat, place, hoffset, hopens, hposition.symm⟩

end Document

end Mustache
