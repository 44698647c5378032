import Mathlib.Data.List.Forall2
import Mustache.Proofs.Lexer.Tiling
import Mustache.Proofs.Outcome

/-!
# Tokens of a text laid out anew

A template laid out anew, with other blanks in front of its lines or other line endings, is cut into
the same tags as before: `run_spell`. A layout puts white space into the template and nothing else,
no delimiter holds white space, and white space is part of no name. So a tag is found where it was
(`Opening.spell`) and read in the same pieces (`readTag_spell`), but for line feeds in free content;
a tag that was alone on its line still is, and takes the new indentation (`settle_spell`).

`Token.Relaid` says how the tokens correspond: tag to tag, plain text to plain text, and in front of
a line that begins with no plain text of its own the indentation is new plain text.
-/

namespace Mustache

open Text Chars

variable (layout : Layout)

/-- **A tag read from a text laid out**: the pieces are those of the tag, free content is laid out
inside the text, and a tag alone on its line has the indentation and the line ending of the layout.
The pieces around a tag that is not alone on its line are empty, and no tag takes more than its own
line. -/
structure Tag.Relaid (tag relaid : Tag) : Prop where
  openTag : relaid.openTag = tag.openTag
  sigil : relaid.sigil = tag.sigil
  paddingBefore : relaid.paddingBefore = tag.paddingBefore
  content : relaid.content
    = if isFreeform tag.sigil then layout.inside tag.content else tag.content
  paddingAfter : relaid.paddingAfter = tag.paddingAfter
  closeSigil : relaid.closeSigil = tag.closeSigil
  closeTag : relaid.closeTag = tag.closeTag
  standalone : relaid.standalone = tag.standalone
  spaceBefore : relaid.spaceBefore = layout.margin tag.standalone ++ tag.spaceBefore
  spaceAfter : relaid.spaceAfter = layout.spell false tag.spaceAfter
  inline : tag.standalone = false → tag.spaceBefore = [] ∧ tag.spaceAfter = []
  ending : '\n' ∉ tag.spaceAfter.dropLast

/-- **Tokens of a text laid out**, one by one, with the indentation as new plain text where the text
has none. -/
inductive Token.Relaid : List Token → List Token → Prop
  | nil : Relaid [] []
  | text {plain : Chars} {offset offset' : Int} {lineStart : Bool} {tokens relaid : List Token}
      (hplain : plain ≠ []) (h : Relaid tokens relaid) :
      Relaid (.text plain offset :: tokens) (.text (layout.spell lineStart plain) offset' :: relaid)
  | margin {offset : Int} {tokens relaid : List Token} (hindent : layout.indent ≠ [])
      (h : Relaid tokens relaid) : Relaid tokens (.text layout.indent offset :: relaid)
  | tag {tag tag' : Tag} {tokens relaid : List Token} (htag : tag.Relaid layout tag')
      (h : Relaid tokens relaid) : Relaid (.tag tag :: tokens) (.tag tag' :: relaid)

variable {layout}

theorem Token.Relaid.append {left left' right right' : List Token}
    (hleft : Token.Relaid layout left left') (hright : Token.Relaid layout right right') :
    Token.Relaid layout (left ++ right) (left' ++ right') := by
  induction hleft with
  | nil => exact hright
  | text hplain _ ih => exact .text hplain ih
  | margin hindent _ ih => exact .margin hindent ih
  | tag htag _ ih => exact .tag htag ih

theorem Token.Relaid.ofText (layout : Layout) (text : Chars) (lineStart : Bool)
    (offset offset' : Int) :
    Token.Relaid layout (Token.ofText text offset)
      (Token.ofText (layout.spell lineStart text) offset') := by
  cases text with
  | nil => rw [Layout.spell_nil]; exact .nil
  | cons c text =>
    have hne := layout.spell_ne_nil lineStart (List.cons_ne_nil c text)
    rw [Token.ofText, Token.ofText, if_neg hne, if_neg (List.cons_ne_nil c text)]
    exact .text (List.cons_ne_nil c text) .nil

/-- Blanks of one line, behind the margin. -/
theorem Token.Relaid.ofBlank (layout : Layout) {indent : Chars} (hblank : '\n' ∉ indent)
    (lineStart : Bool) (offset offset' : Int) :
    Token.Relaid layout (Token.ofText indent offset)
      (Token.ofText (layout.margin lineStart ++ indent) offset') := by
  by_cases hindent : indent = []
  · subst hindent
    rw [List.append_nil, Token.ofText, Token.ofText, if_pos rfl]
    split
    · exact .nil
    next hmargin =>
      cases lineStart with
      | false => exact absurd rfl hmargin
      | true => exact .margin hmargin .nil
  · have hspell := layout.spell_of_ne_nil lineStart hindent
    rw [layout.spell_of_not_mem hblank] at hspell
    rw [← hspell]
    exact .ofText layout indent lineStart offset offset'

namespace Lexer

variable {delimiters : Delimiters}

/-! ## The next tag -/

/-- **A tag opens where it did**, behind the plain text laid out and the margin of its line. -/
theorem Opening.spell {needle ahead text indent rest : Chars} (layout : Layout)
    (hneedle : Solid needle) (h : Opening needle ahead text indent rest) (lineStart : Bool) :
    Opening needle (layout.spell lineStart ahead) (layout.spell lineStart text)
      (layout.margin (lineStartAfter lineStart text) ++ indent) (layout.spell false rest) := by
  have hindent : '\n' ∉ indent := lineFeed_not_mem_blank h.blank
  have hrest := h.ne_nil hneedle
  have hbehind : indent ++ rest ≠ [] := fun hnil => hrest (List.append_eq_nil_iff.mp hnil).2
  have htaken : ahead.take (text.length + indent.length) = text ++ indent := by
    rw [h.ahead_eq, ← List.append_assoc, ← List.length_append, List.take_left]
  refine ⟨?_, ?_, fun c hc => ?_, fun c hc => ?_⟩
  · rw [h.ahead_eq, layout.spell_append, layout.spell_of_ne_nil _ hbehind,
      layout.spell_append_of_not_mem hindent, List.append_assoc]
  · rw [layout.offsetOf?_spell_margin hneedle, h.offset, Option.map_some, htaken,
      layout.inside_append, layout.inside_of_not_mem hindent, ← List.append_assoc,
      layout.margin_append_inside]
    simp only [List.length_append, Nat.add_assoc]
  · rcases List.mem_append.mp hc with hc | hc
    · exact layout.isBlank_margin c hc
    · exact h.blank c hc
  · rw [layout.getLast?_spell] at hc
    exact h.trimmed c hc

/-! ## A tag in its pieces -/

/-- **A scan of a text laid out** takes what the scan takes, laid out by `f`, and leaves the rest
laid out. -/
structure Scanned (layout : Layout) (pattern : Pattern) (f : Chars → Chars) (start start' : Cursor)
    (scan scan' : Chars × Cursor) : Prop where
  match_eq : pattern.match? start.ahead = some scan.1
  match_eq' : pattern.match? start'.ahead = some scan'.1
  taken : scan'.1 = f scan.1
  cursor : scan.2 = start.advance scan.1.length
  cursor' : scan'.2 = start'.advance scan'.1.length
  ahead : scan'.2.ahead = layout.spell false scan.2.ahead

variable {start start' : Cursor}

theorem scan_spell {pattern : Pattern} {f : Chars → Chars}
    (hahead : start'.ahead = layout.spell false start.ahead)
    (hmatch : pattern.match? (layout.spell false start.ahead)
      = (pattern.match? start.ahead).map f)
    (hsplit : ∀ taken rest, pattern.match? start.ahead = some taken → start.ahead = taken ++ rest →
      layout.spell false start.ahead = f taken ++ layout.spell false rest) :
    Agree (Scanned layout pattern f start start') (start.scan pattern) (start'.scan pattern) := by
  cases h : pattern.match? start.ahead with
  | none =>
    rw [h] at hmatch
    rw [Cursor.scan_of_no_match h, Cursor.scan_of_no_match (hahead ▸ hmatch)]
    exact .error _ _
  | some taken =>
    obtain ⟨rest, hrest⟩ := Pattern.match?_isPrefix h
    rw [h] at hmatch
    have hspell := hsplit taken rest h hrest.symm
    rw [← hahead] at hmatch
    rw [Cursor.scan_of_match h, Cursor.scan_of_match hmatch]
    refine .ok ⟨h, hmatch, rfl, rfl, rfl, ?_⟩
    show (start'.advance (f taken).length).ahead = layout.spell false (start.advance _).ahead
    rw [Cursor.ahead_advance_of_append (hahead.trans hspell),
      Cursor.ahead_advance_of_append hrest.symm]

/-- A scan inside a line takes the same from a text laid out. -/
theorem scan_spell_line {pattern : Pattern}
    (hahead : start'.ahead = layout.spell false start.ahead)
    (hmatch : pattern.match? (layout.spell false start.ahead) = pattern.match? start.ahead)
    (hline : pattern.InLine) :
    Agree (Scanned layout pattern id start start') (start.scan pattern)
      (start'.scan pattern) := by
  refine scan_spell hahead ?_ fun taken rest htaken hrest => ?_
  · rw [hmatch, Option.map_id_fun, id_eq]
  · rw [hrest, layout.spell_append_of_not_mem (hline _ taken htaken)]
    rfl

theorem scan_literal_spell {literal : Chars} (hliteral : ∀ c ∈ literal, isSpace c = false)
    (hahead : start'.ahead = layout.spell false start.ahead) :
    Agree (Scanned layout (.literal literal) id start start') (start.scan (.literal literal))
      (start'.scan (.literal literal)) := by
  refine scan_spell_line hahead ?_ (literal_inLine hliteral)
  simp only [Pattern.match?, layout.isPrefixOf_spell hliteral]

theorem scan_closeSigil_spell {sigil : Chars}
    (hclosing : ∀ c ∈ closingSigil sigil, isSpace c = false)
    (hahead : start'.ahead = layout.spell false start.ahead) :
    Agree (Scanned layout (.closeSigil sigil) id start start') (start.scan (.closeSigil sigil))
      (start'.scan (.closeSigil sigil)) := by
  refine scan_spell_line hahead ?_ (closeSigil_inLine hclosing)
  simp only [Pattern.match?, layout.isPrefixOf_spell hclosing]

theorem scan_padding_spell (hahead : start'.ahead = layout.spell false start.ahead) :
    Agree (Scanned layout .padding id start start') (start.scan .padding)
      (start'.scan .padding) := by
  refine scan_spell_line hahead ?_ padding_inLine
  simp only [Pattern.match?]
  rw [layout.takeWhile_spell (by decide) (by decide)]

theorem scan_sigil_spell (hahead : start'.ahead = layout.spell false start.ahead) :
    Agree (Scanned layout .optionalSigil id start start') (start.scan .optionalSigil)
      (start'.scan .optionalSigil) := by
  refine scan_spell_line hahead ?_ optionalSigil_inLine
  cases start.ahead with
  | nil => rw [Layout.spell_nil]
  | cons c rest =>
    by_cases hc : c = '\n'
    · subst hc
      rw [layout.spell_lineFeed]
      rcases layout.newline_eq with h | h <;> rw [h] <;> rfl
    · rw [layout.spell_cons_of_ne hc]
      rfl

/-- Free content is laid out inside the text, and a name stays as it is. -/
theorem scan_content_spell {sigil : Chars} {close : Delimiter}
    (hclosing : ∀ c ∈ closingSigil sigil, isSpace c = false)
    (hahead : start'.ahead = layout.spell false start.ahead) :
    Agree (Scanned layout (.content sigil close.text)
        (fun content => if isFreeform sigil then layout.inside content else content) start start')
      (start.scan (.content sigil close.text)) (start'.scan (.content sigil close.text)) := by
  by_cases hfree : isFreeform sigil = true
  · simp only [hfree, if_true]
    refine scan_spell hahead ?_ fun taken rest htaken hrest => ?_
    · simp only [Pattern.match?, hfree, if_true]
      exact layout.freeContent_spell hclosing close.solid start.ahead
    · simp only [Pattern.match?, hfree, if_true] at htaken
      obtain ⟨rest', hrest', hcloses⟩ := Pattern.closes_of_freeContent htaken
      have hsame : rest' = rest := List.append_cancel_left (hrest'.symm.trans hrest)
      subst hsame
      have hne : rest' ≠ [] := by
        rintro rfl
        rw [Pattern.closes, close.solid.isPrefixOf_nil,
          (Solid.append hclosing close.solid).isPrefixOf_nil] at hcloses
        cases hcloses
      rw [hrest', layout.spell_append_of_ne_nil false taken hne]
      rfl
  · have hfree : isFreeform sigil = false := Bool.eq_false_iff.mpr hfree
    simp only [hfree, Bool.false_eq_true, if_false]
    refine scan_spell_line hahead ?_ (content_inLine hfree)
    simp only [Pattern.match?, hfree, Bool.false_eq_true, if_false]
    rw [layout.takeWhile_spell (by decide) (by decide)]

/-- Behind a delimiter no line begins. -/
theorem atLineStart_of_literal {cursor : Cursor} {close : Delimiter} {taken : Chars}
    (h : (Pattern.literal close.text).match? cursor.ahead = some taken) :
    (cursor.advance taken.length).atLineStart = false := by
  obtain ⟨rest, hrest⟩ := Pattern.match?_isPrefix h
  have htaken : taken = close.text := by
    simp only [Pattern.match?] at h
    split at h <;> cases h
    rfl
  rw [Cursor.atLineStart_advance_of_append hrest.symm, htaken]
  exact lineStartAfter_solid close.solid _

/-- **A tag is read from a text laid out** in the same pieces. No line begins behind it. -/
theorem readTag_spell (hahead : start'.ahead = layout.spell false start.ahead) :
    Agree (fun read read' : Tag × Cursor => read.1.Relaid layout read'.1
        ∧ read'.2.ahead = layout.spell false read.2.ahead
        ∧ read.2.atLineStart = false ∧ read'.2.atLineStart = false)
      (readTag delimiters start) (readTag delimiters start') := by
  unfold readTag
  refine (scan_literal_spell delimiters.opening.dense hahead).bind ?_
  rintro ⟨openTag, c₁⟩ ⟨openTag', c₁'⟩ ⟨-, -, rfl, -, -, h₁⟩
  refine (scan_sigil_spell h₁).bind ?_
  rintro ⟨sigil, c₂⟩ ⟨sigil', c₂'⟩ ⟨hsigil, -, rfl, -, -, h₂⟩
  have hclosing := isSpace_closingSigil (sigil_of_match hsigil)
  refine (scan_padding_spell h₂).bind ?_
  rintro ⟨before, c₃⟩ ⟨before', c₃'⟩ ⟨-, -, rfl, -, -, h₃⟩
  refine (scan_content_spell hclosing h₃).bind ?_
  rintro ⟨content, c₄⟩ ⟨content', c₄'⟩ ⟨-, -, rfl, -, -, h₄⟩
  refine (scan_padding_spell h₄).bind ?_
  rintro ⟨after, c₅⟩ ⟨after', c₅'⟩ ⟨-, -, rfl, -, -, h₅⟩
  refine (scan_closeSigil_spell hclosing h₅).bind ?_
  rintro ⟨closeSigil, c₆⟩ ⟨closeSigil', c₆'⟩ ⟨-, -, rfl, -, -, h₆⟩
  refine (scan_literal_spell delimiters.closing.dense h₆).bind ?_
  rintro ⟨closeTag, c₇⟩ ⟨closeTag', c₇'⟩ ⟨hclose, hclose', rfl, hc₇, hc₇', h₇⟩
  refine .ok ⟨⟨rfl, rfl, rfl, rfl, rfl, rfl, rfl, rfl, rfl, rfl, fun _ => ⟨rfl, rfl⟩,
      List.not_mem_nil⟩,
    h₇, ?_, ?_⟩
  · exact hc₇ ▸ atLineStart_of_literal hclose
  · exact hc₇' ▸ atLineStart_of_literal hclose'

/-! ## A tag on its line -/

/-- **A cursor in a text laid out**: a line begins there when one begins at the cursor of the text,
and what lies ahead is laid out. -/
structure Spelled (layout : Layout) (start start' : Cursor) : Prop where
  lineStart : start'.atLineStart = start.atLineStart
  ahead : start'.ahead = layout.spell start.atLineStart start.ahead
  fits : layout.Fits start.ahead

/-- The kind of a tag is settled by its sigil. -/
theorem kind?_relaid {tag tag' : Tag} (h : tag.Relaid layout tag') : tag'.kind? = tag.kind? := by
  unfold Tag.kind?
  rw [h.sigil]

/-- Behind the blank end of a line, or behind a tag that is not alone on its line, the cursors
still correspond. -/
theorem Spelled.advance {after after' : Cursor} {ending rest : Chars}
    (hahead : after'.ahead = layout.spell false after.ahead) (hsplit : after.ahead = ending ++ rest)
    (hline : after.atLineStart = false) (hline' : after'.atLineStart = false)
    (hfits : layout.Fits after.ahead) :
    Spelled layout (after.advance ending.length)
      (after'.advance (layout.spell false ending).length) := by
  have hsplit' : after'.ahead
      = layout.spell false ending ++ layout.spell (lineStartAfter false ending) rest := by
    rw [hahead, hsplit, layout.spell_append]
  have hstart := Cursor.atLineStart_advance_of_append hsplit
  have hstart' := Cursor.atLineStart_advance_of_append hsplit'
  rw [hline] at hstart
  rw [hline', layout.lineStartAfter_spell] at hstart'
  refine ⟨hstart'.trans hstart.symm, ?_, ?_⟩
  · rw [Cursor.ahead_advance_of_append hsplit', Cursor.ahead_advance_of_append hsplit, hstart]
  · rw [Cursor.ahead_advance_of_append hsplit]
    exact (hsplit ▸ hfits).of_append

/-- **A tag alone on its line stays so** in a text laid out, and one that is not stays so too. -/
theorem settle_spell {tag tag' : Tag} {after after' : Cursor} {indent : Chars}
    (htag : tag.Relaid layout tag') (hahead : after'.ahead = layout.spell false after.ahead)
    (hline : after.atLineStart = false) (hline' : after'.atLineStart = false)
    (hfits : layout.Fits after.ahead) (hindent : '\n' ∉ indent) (lineStart : Bool)
    (offset offset' : Int) :
    let settled := settle lineStart indent offset tag after
    let settled' := settle lineStart (layout.margin lineStart ++ indent) offset' tag' after'
    Token.Relaid layout settled.blank settled'.blank ∧ settled.tag.Relaid layout settled'.tag
      ∧ Spelled layout settled.cursor settled'.cursor := by
  have hend := layout.endOfLine_spell hfits
  rw [← hahead] at hend
  have hkind := kind?_relaid htag
  intro settled settled'
  rcases settle_cases lineStart indent offset tag after with
    ⟨ending, rfl, hstands, hmatch, hsettled⟩ | ⟨hinline, hsettled⟩
  · obtain ⟨rest, hsplit⟩ := Pattern.match?_isPrefix hmatch
    rw [hmatch] at hend
    have hsettled' : settled' = ⟨[], tag'.alone (layout.indent ++ indent)
        (layout.spell false ending), after'.advance (layout.spell false ending).length⟩ :=
      settle_alone (hkind ▸ hstands) hend
    rw [show settled = _ from hsettled, hsettled']
    exact ⟨.nil, ⟨htag.openTag, htag.sigil, htag.paddingBefore, htag.content, htag.paddingAfter,
      htag.closeSigil, htag.closeTag, rfl, rfl, rfl, nofun,
      Pattern.lineFeed_not_mem_dropLast hmatch⟩,
      .advance hahead hsplit.symm hline hline' hfits⟩
  · have hsettled' : settled'
        = ⟨Token.ofText (layout.margin lineStart ++ indent) offset', tag', after'⟩ := by
      refine settle_inline fun hstart hstands => ?_
      rw [hend, hinline hstart (hkind ▸ hstands)]
      rfl
    rw [show settled = _ from hsettled, hsettled']
    refine ⟨.ofBlank layout hindent lineStart offset offset', htag, ?_⟩
    have hnone : after.ahead = [] ++ after.ahead := rfl
    have h := Spelled.advance hahead hnone hline hline' hfits
    rwa [Layout.spell_nil, List.length_nil, Cursor.advance_zero, Cursor.advance_zero] at h

/-- A layout keeps the delimiters that a tag defines. -/
theorem delimitersAfter_spell {tag tag' : Tag} (htag : tag.Relaid layout tag') :
    Agree (fun defined defined' => defined' = defined) (delimitersAfter delimiters start tag)
      (delimitersAfter delimiters start' tag') := by
  unfold delimitersAfter
  rw [kind?_relaid htag]
  split
  next hkind =>
    have hcontent := htag.content
    rw [if_pos (Tag.isFreeform_iff.mpr (.inr hkind))] at hcontent
    rw [hcontent, Layout.ofDefinition?_congr (layout.words_inside tag.content)]
    split
    · exact .ok rfl
    · exact .error _ _
  · exact .ok rfl

/-! ## A step and the run -/

/-- **Steps that correspond**: the same delimiters, tokens of the text laid out, and cursors that
still correspond. -/
structure Step.Spelled (layout : Layout) (step step' : Step) : Prop where
  delimiters : step'.delimiters = step.delimiters
  tokens : Token.Relaid layout step.tokens step'.tokens
  cursor : Lexer.Spelled layout step.cursor step'.cursor

theorem tagStep_spell {text indent rest : Chars} (h : Spelled layout start start')
    (hopening : Opening delimiters.opening.text start.ahead text indent rest) :
    Agree (Step.Spelled layout) (tagStep delimiters start text indent)
      (tagStep delimiters start' (layout.spell start.atLineStart text)
        (layout.margin (lineStartAfter start.atLineStart text) ++ indent)) := by
  have hopening' := hopening.spell layout delimiters.opening.solid start.atLineStart
  rw [← h.ahead] at hopening'
  have hindent : '\n' ∉ indent := lineFeed_not_mem_blank hopening.blank
  have hline := Cursor.atLineStart_advance_of_append hopening.ahead_eq
  have hline' := Cursor.atLineStart_advance_of_append hopening'.ahead_eq
  rw [h.lineStart, layout.lineStartAfter_spell] at hline'
  have hahead := hopening.ahead_eq
  rw [← List.append_assoc] at hahead
  have hrest : (start.advance (text.length + indent.length)).ahead = rest := by
    rw [← List.length_append]
    exact Cursor.ahead_advance_of_append hahead
  have hrest' : (start'.advance ((layout.spell start.atLineStart text).length
      + (layout.margin (lineStartAfter start.atLineStart text) ++ indent).length)).ahead
        = layout.spell false rest := by
    have hahead' := hopening'.ahead_eq
    rw [← List.append_assoc] at hahead'
    rw [← List.length_append]
    exact Cursor.ahead_advance_of_append hahead'
  unfold tagStep
  refine (readTag_spell (hrest'.trans (by rw [hrest]))).bind_of_ok ?_
  rintro ⟨tag, after⟩ ⟨tag', after'⟩ hread - ⟨htag, hafter, hstart, hstart'⟩
  have hfits : layout.Fits after.ahead := by
    have hcore := (readTag_ahead hread).1
    rw [hrest] at hcore
    have hfits := h.fits
    rw [hahead, hcore] at hfits
    exact hfits.of_append.of_append
  refine (delimitersAfter_spell htag).bind ?_
  rintro next next' rfl
  rw [hline, hline']
  obtain ⟨hblank, hsettled, hcursor⟩ := settle_spell htag hafter hstart hstart' hfits hindent
    (lineStartAfter start.atLineStart text) (start.advance text.length).position
    (start'.advance (layout.spell start.atLineStart text).length).position
  refine .ok ⟨rfl, ?_, hcursor⟩
  exact ((Token.Relaid.ofText layout text _ _ _).append hblank).append (.tag hsettled .nil)

/-- **One step on a text laid out.** -/
theorem next_spell (h : Spelled layout start start') :
    Agree (Step.Spelled layout) (next delimiters start) (next delimiters start') := by
  rcases next_cases delimiters start with ⟨hnone, hnext⟩ | ⟨text, indent, rest, hopening, hnext⟩
  · have hnone' : offsetOf? delimiters.opening.text start'.ahead = none := by
      rw [h.ahead, layout.offsetOf?_spell_margin delimiters.opening.solid, hnone]
      rfl
    rw [hnext, next_of_none hnone']
    have hend : start.ahead = start.ahead ++ [] := (List.append_nil _).symm
    have hend' : start'.ahead = start'.ahead ++ [] := (List.append_nil _).symm
    have hstart := Cursor.atLineStart_advance_of_append hend
    have hstart' := Cursor.atLineStart_advance_of_append hend'
    rw [h.lineStart, h.ahead, layout.lineStartAfter_spell, ← h.ahead] at hstart'
    refine .ok ⟨rfl, ?_, ⟨hstart'.trans hstart.symm, ?_, ?_⟩⟩
    · show Token.Relaid layout (Token.ofText start.ahead _) (Token.ofText start'.ahead _)
      rw [h.ahead]
      exact .ofText layout start.ahead _ _ _
    · show (start'.advance start'.ahead.length).ahead = _
      rw [Cursor.ahead_advance_of_append hend', textStep, Cursor.ahead_advance_of_append hend,
        Layout.spell_nil]
    · rw [textStep, Cursor.ahead_advance_of_append hend]
      exact .inr List.not_mem_nil
  · have hopening' := hopening.spell layout delimiters.opening.solid start.atLineStart
    rw [← h.ahead] at hopening'
    rw [hnext, next_of_opening hopening']
    exact tagStep_spell h hopening

/-- **A text laid out is cut into the same tags**, or neither text can be cut. -/
theorem run_spell (h : Spelled layout start start') :
    Agree (Token.Relaid layout) (run delimiters start) (run delimiters start') := by
  induction delimiters, start using run.induct generalizing start' with
  | case1 delimiters start hnil =>
    have hnil' : start'.ahead = [] := by rw [h.ahead, hnil, Layout.spell_nil]
    rw [run_nil delimiters hnil, run_nil delimiters hnil']
    exact .ok .nil
  | case2 delimiters start hne fault hfault =>
    have hne' : start'.ahead ≠ [] := h.ahead ▸ layout.spell_ne_nil _ hne
    have hstep : Agree (Step.Spelled layout) (next delimiters start) (next delimiters start') :=
      next_spell h
    rw [hfault] at hstep
    obtain ⟨fault', hfault'⟩ := hstep.error_right
    rw [run_of_error hne hfault, run_of_error hne' hfault']
    exact .error _ _
  | case3 delimiters start hne step hnext _ ih =>
    have hne' : start'.ahead ≠ [] := h.ahead ▸ layout.spell_ne_nil _ hne
    have hstep : Agree (Step.Spelled layout) (next delimiters start) (next delimiters start') :=
      next_spell h
    rw [hnext] at hstep
    obtain ⟨step', hnext', hspelled⟩ := hstep.exists_right
    rw [run_of_next hne hnext, run_of_next hne' hnext', hspelled.delimiters]
    exact (ih hspelled.cursor).map fun _ _ hrest => hspelled.tokens.append hrest

end Lexer

/-- **Cutting a text laid out**: the tokens of the text, laid out, or no tokens where the text has
none. -/
theorem tokenize_spell (layout : Layout) {source : Chars} (hfits : layout.Fits source) :
    Agree (Token.Relaid layout) (tokenize source) (tokenize (layout.spell true source)) := by
  rw [tokenize_eq_run, tokenize_eq_run]
  exact Lexer.run_spell ⟨rfl, rfl, hfits⟩

end Mustache
