import Mustache.Proofs.Lexer.Layout
import Mustache.Proofs.Lexer.TagStep

/-!
# Templates with other line endings

A template whose lines end in a line feed is cut into the same tokens when its lines end in a
carriage return and a line feed: `tokenize_addReturns`. The plain text, the free content and the
line ending that a tag takes are spelled with the returns, everything else of a token is the same,
and each token stands further on by the number of line feeds before it.

This is the layout `Layout.returned`, which indents nothing, so most of it is known
(`tokenize_spell`). Two things are added here. All pieces of a tag but those three stay in their
line (`run_inLine`), so that a tag is written with a return exactly where it is spelled with one.
And the tokens of either text tile it, so an offset is the length of what is written before.

That the template has no carriage return of its own is needed: one that stands before a line feed
is part of the line's end, but with a return put in between it would be a character of the line.
-/

namespace Mustache

open Text Chars

namespace Chars

/-- **The text with a carriage return in front of every line feed.** -/
def addReturns (text : Chars) : Chars :=
  text.flatMap fun c => if c = '\n' then ['\r', '\n'] else [c]

@[simp] theorem addReturns_nil : addReturns [] = [] := rfl

theorem addReturns_cons (c : Char) (text : Chars) :
    addReturns (c :: text) = (if c = '\n' then ['\r', '\n'] else [c]) ++ addReturns text :=
  List.flatMap_cons

@[simp] theorem addReturns_append (left right : Chars) :
    addReturns (left ++ right) = addReturns left ++ addReturns right :=
  List.flatMap_append

/-- One line gets no return. -/
theorem addReturns_of_not_mem {text : Chars} (h : '\n' ∉ text) : addReturns text = text := by
  induction text with
  | nil => rfl
  | cons c text ih =>
    rw [List.mem_cons, not_or] at h
    rw [addReturns_cons, if_neg (Ne.symm h.1), ih h.2]
    rfl

/-- There are as many returns as there were line feeds. -/
theorem length_addReturns (text : Chars) :
    (addReturns text).length = text.length + text.count '\n' := by
  induction text with
  | nil => rfl
  | cons c text ih =>
    rw [addReturns_cons, List.length_append, ih, List.length_cons, List.count_cons]
    by_cases hc : c = '\n'
    · simp only [hc, if_true, beq_self_eq_true, List.length_cons, List.length_nil]
      omega
    · simp only [hc, if_false, beq_iff_eq, List.length_cons, List.length_nil]
      omega

end Chars

namespace Layout

/-- The layout that ends lines in a carriage return and a line feed. -/
def returned : Layout := { plain with newline := ['\r', '\n'], newline_eq := .inr rfl }

theorem margin_returned (lineStart : Bool) : returned.margin lineStart = [] := by
  cases lineStart <;> rfl

theorem spell_returned (lineStart : Bool) (text : Chars) :
    returned.spell lineStart text = addReturns text := by
  induction text generalizing lineStart with
  | nil => exact spell_nil _ _
  | cons c text ih =>
    rw [spell_cons, ih, margin_returned, addReturns_cons]
    rfl

theorem inside_returned (text : Chars) : returned.inside text = addReturns text := by
  have h := returned.margin_append_inside false text
  rwa [margin_returned, margin_returned, spell_returned, List.nil_append, List.append_nil] at h

end Layout

/-! ## Tags that stay in their line -/

/-- **The tag stays in its line**, but for free content and the line ending that it takes. -/
structure Tag.InLine (tag : Tag) : Prop where
  openTag : '\n' ∉ tag.openTag
  sigil : '\n' ∉ tag.sigil
  paddingBefore : '\n' ∉ tag.paddingBefore
  content : isFreeform tag.sigil = false → '\n' ∉ tag.content
  paddingAfter : '\n' ∉ tag.paddingAfter
  closeSigil : '\n' ∉ tag.closeSigil
  closeTag : '\n' ∉ tag.closeTag
  spaceBefore : '\n' ∉ tag.spaceBefore

namespace Lexer

variable {delimiters : Delimiters} {start : Cursor}

/-- What a scan takes by a pattern that stays in its line holds no line feed. -/
theorem scan_inLine {cursor : Cursor} {pattern : Pattern} {taken : Chars}
    (hpattern : pattern.InLine) (h : start.scan pattern = .ok (taken, cursor)) : '\n' ∉ taken :=
  hpattern _ _ (Cursor.match_of_scan h).1

theorem readTag_inLine {after : Cursor} {tag : Tag}
    (h : readTag delimiters start = .ok (tag, after)) : tag.InLine := by
  simp only [readTag, bind_eq_ok, Prod.exists] at h
  obtain ⟨_, _, h₁, _, _, h₂, _, _, h₃, _, _, h₄, _, _, h₅, _, _, h₆, _, _, h₇, h⟩ := h
  cases h
  have hclosing := isSpace_closingSigil (sigil_of_match (Cursor.match_of_scan h₂).1)
  exact
    { openTag := scan_inLine (literal_inLine delimiters.opening.dense) h₁
      sigil := scan_inLine optionalSigil_inLine h₂
      paddingBefore := scan_inLine padding_inLine h₃
      content := fun hname => scan_inLine (content_inLine hname) h₄
      paddingAfter := scan_inLine padding_inLine h₅
      closeSigil := scan_inLine (closeSigil_inLine hclosing) h₆
      closeTag := scan_inLine (literal_inLine delimiters.closing.dense) h₇
      spaceBefore := List.not_mem_nil }

/-- A tag alone on its line takes its indentation, which is one of blanks. -/
theorem settle_inLine {tag : Tag} {indent : Chars} (htag : tag.InLine) (hindent : '\n' ∉ indent)
    (lineStart : Bool) (offset : Int) (after : Cursor) :
    (settle lineStart indent offset tag after).tag.InLine
      ∧ ∀ other, .tag other ∉ (settle lineStart indent offset tag after).blank := by
  rcases settle_cases lineStart indent offset tag after with ⟨ending, -, -, -, h⟩ | ⟨-, h⟩
  · rw [h]
    exact ⟨{ htag with spaceBefore := hindent }, fun _ => List.not_mem_nil⟩
  · rw [h]
    exact ⟨htag, fun other => tag_not_mem_ofText other indent offset⟩

/-- **The tag of a step stays in its line.** -/
theorem next_inLine {step : Step} (h : next delimiters start = .ok step) {tag : Tag}
    (hmem : .tag tag ∈ step.tokens) : tag.InLine := by
  rcases next_cases delimiters start with ⟨-, hnext⟩ | ⟨text, indent, rest, hopening, hnext⟩
  · rw [hnext] at h
    cases h
    exact absurd hmem (tag_not_mem_ofText tag _ _)
  · rw [hnext] at h
    have hindent : '\n' ∉ indent := lineFeed_not_mem_blank hopening.blank
    simp only [tagStep, bind_eq_ok, Prod.exists] at h
    obtain ⟨read, after, hread, _, -, h⟩ := h
    cases h
    obtain ⟨hsettled, hblank⟩ := settle_inLine (readTag_inLine hread) hindent
      (start.advance text.length).atLineStart (start.advance text.length).position after
    rw [List.mem_append, List.mem_append, List.mem_singleton] at hmem
    obtain (hmem | hmem) | hmem := hmem
    · exact absurd hmem (tag_not_mem_ofText tag _ _)
    · exact absurd hmem (hblank tag)
    · cases hmem
      exact hsettled

theorem run_inLine {tokens : List Token} (h : run delimiters start = .ok tokens) :
    ∀ tag, .tag tag ∈ tokens → tag.InLine := by
  have hall : ∀ token ∈ tokens, ∀ tag, token = .tag tag → tag.InLine := by
    refine run_forall ?_ h
    rintro delimiters start step hnext token hmem tag rfl
    exact next_inLine hnext hmem
  exact fun tag hmem => hall _ hmem tag rfl

end Lexer

/-! ## Tokens with returns -/

/-- An offset moves on by the number of line feeds before it. -/
def offsetReturned (source : Chars) (offset : Int) : Int :=
  offset + (source.take offset.toNat).count '\n'

/-- **A tag of the template with returns**: what may span lines is spelled with the returns, and
the rest is the same. -/
structure Tag.Returned (source : Chars) (tag returned : Tag) : Prop where
  openTag : returned.openTag = tag.openTag
  sigil : returned.sigil = tag.sigil
  kind : returned.kind? = tag.kind?
  paddingBefore : returned.paddingBefore = tag.paddingBefore
  content : returned.content = addReturns tag.content
  paddingAfter : returned.paddingAfter = tag.paddingAfter
  closeSigil : returned.closeSigil = tag.closeSigil
  closeTag : returned.closeTag = tag.closeTag
  spaceBefore : returned.spaceBefore = tag.spaceBefore
  spaceAfter : returned.spaceAfter = addReturns tag.spaceAfter
  standalone : returned.standalone = tag.standalone
  offset : returned.offset = offsetReturned source tag.offset

/-- **A token of the template with returns.** -/
inductive Token.Returned (source : Chars) : Token → Token → Prop
  | text (plain : Chars) (offset : Int) :
      Returned source (.text plain offset)
        (.text (addReturns plain) (offsetReturned source offset))
  | tag {tag returned : Tag} (h : tag.Returned source returned) :
      Returned source (.tag tag) (.tag returned)

/-- The offset behind a text is its length, and so it is with the returns. -/
theorem offsetReturned_length (before rest : Chars) :
    offsetReturned (before ++ rest) before.length = (addReturns before).length := by
  rw [offsetReturned, Int.toNat_natCast, List.take_left, length_addReturns, Int.natCast_add]

namespace Tag

variable {tag relaid : Tag}

/-- Free content is spelled with the returns, and a name has none. -/
theorem Relaid.content_returned (h : tag.Relaid .returned relaid) (hline : tag.InLine) :
    relaid.content = addReturns tag.content := by
  rw [h.content, Layout.inside_returned]
  split
  · rfl
  next hname => rw [addReturns_of_not_mem (hline.content (Bool.eq_false_iff.mpr hname))]

theorem Relaid.spaceBefore_returned (h : tag.Relaid .returned relaid) :
    relaid.spaceBefore = tag.spaceBefore := by
  rw [h.spaceBefore, Layout.margin_returned, List.nil_append]

theorem Relaid.spaceAfter_returned (h : tag.Relaid .returned relaid) :
    relaid.spaceAfter = addReturns tag.spaceAfter := by
  rw [h.spaceAfter, Layout.spell_returned]

/-- **A tag laid out with returns is written with returns.** -/
theorem Relaid.written_returned (h : tag.Relaid .returned relaid) (hline : tag.InLine) :
    relaid.written = addReturns tag.written := by
  unfold written core
  rw [h.content_returned hline, h.spaceBefore_returned, h.spaceAfter_returned, h.openTag, h.sigil,
    h.paddingBefore, h.paddingAfter, h.closeSigil, h.closeTag]
  simp only [addReturns_append, addReturns_of_not_mem hline.openTag,
    addReturns_of_not_mem hline.sigil, addReturns_of_not_mem hline.paddingBefore,
    addReturns_of_not_mem hline.paddingAfter, addReturns_of_not_mem hline.closeSigil,
    addReturns_of_not_mem hline.closeTag, addReturns_of_not_mem hline.spaceBefore]

variable {before : Chars}

/-- A tag that stands behind its indentation stands there with the returns. -/
theorem Relaid.offset_returned (h : tag.Relaid .returned relaid) (hline : tag.InLine)
    (hoffset : tag.offset = before.length + tag.spaceBefore.length)
    (hoffset' : relaid.offset = (addReturns before).length + relaid.spaceBefore.length)
    (rest : Chars) :
    relaid.offset = offsetReturned (before ++ (tag.spaceBefore ++ rest)) tag.offset := by
  have hlength := offsetReturned_length (before ++ tag.spaceBefore) rest
  rw [addReturns_append, addReturns_of_not_mem hline.spaceBefore, List.append_assoc,
    List.length_append, List.length_append, Int.natCast_add, Int.natCast_add] at hlength
  rw [hoffset, hlength, hoffset', h.spaceBefore_returned]

/-- **A tag laid out with returns** is the tag of the template with returns. -/
theorem Relaid.returned (h : tag.Relaid .returned relaid) (hline : tag.InLine)
    (hoffset : tag.offset = before.length + tag.spaceBefore.length)
    (hoffset' : relaid.offset = (addReturns before).length + relaid.spaceBefore.length)
    (rest : Chars) : tag.Returned (before ++ (tag.written ++ rest)) relaid := by
  refine ⟨h.openTag, h.sigil, Lexer.kind?_relaid h, h.paddingBefore, h.content_returned hline,
    h.paddingAfter, h.closeSigil, h.closeTag, h.spaceBefore_returned, h.spaceAfter_returned,
    h.standalone, ?_⟩
  have hwritten : tag.written ++ rest
      = tag.spaceBefore ++ (tag.core ++ (tag.spaceAfter ++ rest)) := by
    rw [written]
    simp only [List.append_assoc]
  rw [hwritten]
  exact h.offset_returned hline hoffset hoffset' _

end Tag

namespace Token

/-- **Tokens laid out with returns**, each placed behind what is written before it, correspond one
to one. -/
theorem Relaid.returned {tokens relaid : List Token} (h : Relaid .returned tokens relaid)
    (hline : ∀ tag, .tag tag ∈ tokens → tag.InLine) {before : Chars}
    (hplaced : Placed before.length tokens) (hplaced' : Placed (addReturns before).length relaid) :
    List.Forall₂ (Token.Returned (before ++ writtenAll tokens)) tokens relaid := by
  induction h generalizing before with
  | nil => exact .nil
  | margin hindent _ _ => exact absurd rfl hindent
  | @text plain offset offset' lineStart tokens relaid _ _ ih =>
    obtain ⟨⟨-, rfl⟩, hplaced⟩ := hplaced
    obtain ⟨⟨-, rfl⟩, hplaced'⟩ := hplaced'
    rw [Layout.spell_returned] at hplaced' ⊢
    have hsource : before ++ writtenAll (.text plain before.length :: tokens)
        = (before ++ plain) ++ writtenAll tokens := (List.append_assoc _ _ _).symm
    refine .cons ?_ ?_
    · rw [← offsetReturned_length before (writtenAll (.text plain before.length :: tokens))]
      exact .text plain before.length
    · rw [hsource]
      refine ih (fun tag hmem => hline tag (List.mem_cons_of_mem _ hmem)) ?_ ?_
      · rwa [List.length_append]
      · rwa [addReturns_append, List.length_append]
  | @tag tag tag' tokens relaid htag _ ih =>
    obtain ⟨hoffset, hplaced⟩ := hplaced
    obtain ⟨hoffset', hplaced'⟩ := hplaced'
    have hinLine := hline tag List.mem_cons_self
    have hsource : before ++ writtenAll (.tag tag :: tokens)
        = (before ++ tag.written) ++ writtenAll tokens := (List.append_assoc _ _ _).symm
    refine .cons (.tag (htag.returned hinLine hoffset hoffset' (writtenAll tokens))) ?_
    rw [hsource]
    refine ih (fun tag hmem => hline tag (List.mem_cons_of_mem _ hmem)) ?_ ?_
    · rwa [List.length_append]
    · rw [addReturns_append, List.length_append, ← htag.written_returned hinLine]
      exact hplaced'

end Token

/-- **Line endings do not matter**: a template without carriage returns can be cut if and only if
it can be with a return in front of every line feed, and then the tokens correspond one to one. -/
theorem tokenize_addReturns {source : Chars} (hreturn : '\r' ∉ source) :
    ((∃ returned, tokenize (addReturns source) = .ok returned)
        ↔ ∃ tokens, tokenize source = .ok tokens)
      ∧ ∀ tokens returned, tokenize source = .ok tokens →
          tokenize (addReturns source) = .ok returned →
          List.Forall₂ (Token.Returned source) tokens returned := by
  have hagree := tokenize_spell .returned (.inr hreturn)
  rw [Layout.spell_returned] at hagree
  refine ⟨hagree.isOk_iff.symm, fun tokens returned htokens hreturned => ?_⟩
  rw [htokens, hreturned] at hagree
  rw [tokenize_eq_run] at htokens hreturned
  obtain ⟨hwritten, hplaced⟩ := Lexer.run_placed htokens
  obtain ⟨-, hplaced'⟩ := Lexer.run_placed hreturned
  have hbefore : ([] : Chars) ++ Token.writtenAll tokens = source := hwritten
  rw [← hbefore]
  exact hagree.of_ok.returned (Lexer.run_inLine htokens) hplaced hplaced'

/-- Two tags alone on their lines, the first of them written over two lines: one line feed stands
before the first, and three before the second. -/
theorem tokenize_addReturns_comment :
    '\r' ∉ "a\n\x7b\x7b! x\ny\x7d\x7d\n \x7b\x7b#b\x7d\x7d \nc".toList
      ∧ tokenize "a\n\x7b\x7b! x\ny\x7d\x7d\n \x7b\x7b#b\x7d\x7d \nc".toList = .ok
        [.text ['a', '\n'] 0,
          .tag ⟨['{', '{'], ['!'], [' '], ['x', '\n', 'y'], [], [], ['}', '}'], [], ['\n'], true,
            2⟩,
          .tag ⟨['{', '{'], ['#'], [], ['b'], [], [], ['}', '}'], [' '], [' ', '\n'], true, 13⟩,
          .text ['c'] 21]
      ∧ ∃ returned, tokenize (addReturns
            "a\n\x7b\x7b! x\ny\x7d\x7d\n \x7b\x7b#b\x7d\x7d \nc".toList) = .ok returned
        ∧ List.Forall₂
          (Token.Returned "a\n\x7b\x7b! x\ny\x7d\x7d\n \x7b\x7b#b\x7d\x7d \nc".toList)
          [.text ['a', '\n'] 0,
            .tag ⟨['{', '{'], ['!'], [' '], ['x', '\n', 'y'], [], [], ['}', '}'], [], ['\n'], true,
              2⟩,
            .tag ⟨['{', '{'], ['#'], [], ['b'], [], [], ['}', '}'], [' '], [' ', '\n'], true, 13⟩,
            .text ['c'] 21] returned := by
  have hreturn : '\r' ∉ "a\n\x7b\x7b! x\ny\x7d\x7d\n \x7b\x7b#b\x7d\x7d \nc".toList := by decide
  have htokens : tokenize "a\n\x7b\x7b! x\ny\x7d\x7d\n \x7b\x7b#b\x7d\x7d \nc".toList = .ok
      [.text ['a', '\n'] 0,
        .tag ⟨['{', '{'], ['!'], [' '], ['x', '\n', 'y'], [], [], ['}', '}'], [], ['\n'], true, 2⟩,
        .tag ⟨['{', '{'], ['#'], [], ['b'], [], [], ['}', '}'], [' '], [' ', '\n'], true, 13⟩,
        .text ['c'] 21] := by
    rw [tokenize_eq_runWithin]
    decide +kernel
  obtain ⟨hcut, hreturned⟩ := tokenize_addReturns hreturn
  obtain ⟨returned, h⟩ := hcut.mpr ⟨_, htokens⟩
  exact ⟨hreturn, htokens, returned, h, hreturned _ _ htokens h⟩

end Mustache
