import Mustache.Cursor
import Mustache.Delimiters
import Mustache.Token

/-!
# From template to tokens

`tokenize` cuts a template into tokens. It runs in steps. A step takes the plain text up to the
next opening delimiter, less the indentation right before it; then the indentation; then the tag in
its pieces. A tag that prints nothing and is alone on its line takes the line with it: the
indentation becomes part of the tag, and so do the blanks and the line ending behind it. Otherwise
the indentation is plain text of its own. A delimiter tag sets the delimiters of the steps that
follow.

**The laws.** `next_ahead`: what a step's tokens were cut from is exactly what the cursor moved
over. `next_length_lt`: a step that begins before the end moves on, so the run ends; this is the
measure of `run`. `tokenize` checks its own answer once more before giving it out, and reports
`Fault.torn` should the tokens not make up the template.
-/

namespace Mustache

namespace Lexer

/-- What one step gives: its tokens, and where and how the next step begins. -/
structure Step where
  tokens : List Token
  delimiters : Delimiters
  cursor : Cursor

/-- A tag on its line: the indentation left to plain text, the tag, and the cursor behind it. -/
structure Settled where
  blank : List Token
  tag : Tag
  cursor : Cursor

/-! ## The parts of a step -/

/-- **Where the plain text ends**: at the indentation before the next opening delimiter, or at the
end of the template. -/
def textEnd (delimiters : Delimiters) (cursor : Cursor) : Nat :=
  match cursor.find? delimiters.opening.text with
  | none => cursor.position + cursor.ahead.length
  | some offset =>
    let plain := cursor.ahead.take (offset - cursor.position)
    cursor.position + (Chars.trimEnd Text.isBlank plain).length

/-- **A tag in its pieces**, from the opening delimiter to the closing one. -/
def readTag (delimiters : Delimiters) (cursor : Cursor) : Except Fault (Tag × Cursor) := do
  let offset : Int := cursor.position
  let (openTag, cursor) ← cursor.scan (.literal delimiters.opening.text)
  let (sigil, cursor) ← cursor.scan .optionalSigil
  let (paddingBefore, cursor) ← cursor.scan .padding
  let (content, cursor) ← cursor.scan (.content sigil delimiters.closing.text)
  let (paddingAfter, cursor) ← cursor.scan .padding
  let (closeSigil, cursor) ← cursor.scan (.closeSigil sigil)
  let (closeTag, cursor) ← cursor.scan (.literal delimiters.closing.text)
  let tag : Tag :=
    { openTag, sigil, paddingBefore, content, paddingAfter, closeSigil, closeTag, offset,
      spaceBefore := [], spaceAfter := [], standalone := false }
  return (tag, cursor)

/-- **The tag on its line**: when its kind allows and nothing else stands on the line, the tag takes
the indentation and the rest of the line; otherwise the indentation is plain text. -/
def settle (atLineStart : Bool) (indent : Chars) (indentOffset : Int) (tag : Tag)
    (cursor : Cursor) : Settled :=
  if atLineStart && tag.kind?.any TagKind.standsAlone then
    match Pattern.endOfLine.match? cursor.ahead with
    | some after => ⟨[], tag.alone indent after, cursor.advance after.length⟩
    | none => ⟨Token.ofText indent indentOffset, tag, cursor⟩
  else ⟨Token.ofText indent indentOffset, tag, cursor⟩

/-- **The delimiters after a tag**: those it defines, or the ones before it. -/
def delimitersAfter (delimiters : Delimiters) (cursor : Cursor) (tag : Tag) :
    Except Fault Delimiters :=
  if tag.kind? = some .delimiters then
    match Delimiters.ofDefinition? tag.content with
    | some defined => .ok defined
    | none =>
      .error (.malformed (.unmatched tag.offset Pattern.delimiterPairWritten)
        (.ofPosition (.ofOffset cursor.source tag.offset)))
  else .ok delimiters

/-- **One step**: plain text, indentation, tag. Without a tag, the indentation and all the rest are
plain text. -/
def next (delimiters : Delimiters) (start : Cursor) : Except Fault Step := do
  let (plain, cursor) ← start.scanTo (textEnd delimiters start)
  let text := Token.ofText plain start.position
  let atLineStart := cursor.atLineStart
  let indentOffset := cursor.position
  let (indent, cursor) ← cursor.scan .indent
  if cursor.hasMatch (.literal delimiters.opening.text) then
    let (tag, cursor) ← readTag delimiters cursor
    let settled := settle atLineStart indent indentOffset tag cursor
    let delimiters ← delimitersAfter delimiters start tag
    return ⟨text ++ settled.blank ++ [.tag settled.tag], delimiters, settled.cursor⟩
  else
    let (rest, cursor) ← cursor.scan .everything
    return ⟨text ++ Token.ofText (indent ++ rest) indentOffset, delimiters, cursor⟩

/-! ## A step moves over what its tokens were cut from -/

/-- The pieces of a tag are what the cursor moved over. -/
theorem readTag_ahead {delimiters : Delimiters} {start cursor : Cursor} {tag : Tag}
    (h : readTag delimiters start = .ok (tag, cursor)) :
    start.ahead = tag.core ++ cursor.ahead ∧ cursor.source = start.source
      ∧ tag.openTag = delimiters.opening.text ∧ tag.spaceBefore = [] ∧ tag.spaceAfter = [] := by
  simp only [readTag, bind_eq_ok, Prod.exists] at h
  obtain ⟨_, _, h1, _, _, h2, _, _, h3, _, _, h4, _, _, h5, _, _, h6, _, _, h7, h8⟩ := h
  cases h8
  refine ⟨?_, ?_, Cursor.scan_literal h1, rfl, rfl⟩
  · simp only [Tag.core, List.append_assoc]
    rw [Cursor.scan_ahead h1, Cursor.scan_ahead h2, Cursor.scan_ahead h3, Cursor.scan_ahead h4,
      Cursor.scan_ahead h5, Cursor.scan_ahead h6, Cursor.scan_ahead h7]
  · rw [Cursor.scan_source h7, Cursor.scan_source h6, Cursor.scan_source h5,
      Cursor.scan_source h4, Cursor.scan_source h3, Cursor.scan_source h2, Cursor.scan_source h1]

/-- Settling a tag on its line gives each character of the line to one token. -/
theorem settle_ahead {tag : Tag} (hbefore : tag.spaceBefore = []) (hafter : tag.spaceAfter = [])
    (atLineStart : Bool) (indent : Chars) (indentOffset : Int) (start : Cursor) :
    let settled := settle atLineStart indent indentOffset tag start
    indent ++ (tag.core ++ start.ahead)
        = Token.writtenAll settled.blank ++ (settled.tag.written ++ settled.cursor.ahead)
      ∧ settled.cursor.source = start.source ∧ settled.tag.openTag = tag.openTag := by
  simp only [settle]
  split
  · split
    next after hmatch =>
      obtain ⟨rest, hrest⟩ := Pattern.match?_isPrefix hmatch
      refine ⟨?_, by simp, rfl⟩
      rw [Cursor.ahead_advance, ← hrest]
      simp [Tag.written, Tag.alone, Tag.core]
    · simp [Tag.written, hbefore, hafter]
  · simp [Tag.written, hbefore, hafter]

/-- **A step's tokens were cut from what the cursor moved over.** -/
theorem next_ahead {delimiters : Delimiters} {start : Cursor} {step : Step}
    (h : next delimiters start = .ok step) :
    start.ahead = Token.writtenAll step.tokens ++ step.cursor.ahead
      ∧ step.cursor.source = start.source := by
  simp only [next, bind_eq_ok, Prod.exists] at h
  obtain ⟨plain, afterText, h1, indent, afterIndent, h2, h⟩ := h
  split at h
  · simp only [bind_eq_ok, Prod.exists] at h
    obtain ⟨tag, afterTag, h3, delimiters', _, h⟩ := h
    cases h
    obtain ⟨htag, hsource, _, hbefore, hafter⟩ := readTag_ahead h3
    have hline := settle_ahead hbefore hafter afterText.atLineStart indent afterText.position
      afterTag
    refine ⟨?_, ?_⟩
    · rw [Cursor.scanTo_ahead h1, Cursor.scan_ahead h2, htag, hline.1]
      simp [Token.writtenAll_singleton, Token.written]
    · rw [hline.2.1, hsource, Cursor.scan_source h2, Cursor.scanTo_source h1]
  · simp only [bind_eq_ok, Prod.exists] at h
    obtain ⟨rest, afterRest, h3, h⟩ := h
    cases h
    refine ⟨?_, ?_⟩
    · rw [Cursor.scanTo_ahead h1, Cursor.scan_ahead h2, Cursor.scan_ahead h3]
      simp
    · rw [Cursor.scan_source h3, Cursor.scan_source h2, Cursor.scanTo_source h1]

/-- Without a tag, nothing is left ahead; with one, its opening delimiter was moved over. -/
theorem next_progress {delimiters : Delimiters} {start : Cursor} {step : Step}
    (h : next delimiters start = .ok step) :
    step.cursor.ahead = [] ∨ Token.writtenAll step.tokens ≠ [] := by
  simp only [next, bind_eq_ok, Prod.exists] at h
  obtain ⟨plain, afterText, h1, indent, afterIndent, h2, h⟩ := h
  split at h
  · simp only [bind_eq_ok, Prod.exists] at h
    obtain ⟨tag, afterTag, h3, delimiters', _, h⟩ := h
    cases h
    obtain ⟨_, _, hopen, hbefore, hafter⟩ := readTag_ahead h3
    have hline := settle_ahead hbefore hafter afterText.atLineStart indent afterText.position
      afterTag
    right
    simp only [Token.writtenAll_append, Token.writtenAll_singleton, Token.written, Tag.written,
      Tag.core, ne_eq, List.append_eq_nil_iff]
    exact fun hnil => delimiters.opening.nonempty
      (hopen ▸ hline.2.2 ▸ hnil.2.1.2.1.1.1.1.1.1)
  · simp only [bind_eq_ok, Prod.exists] at h
    obtain ⟨rest, afterRest, h3, h⟩ := h
    cases h
    left
    simp only [Cursor.scan, Pattern.match?] at h3
    cases h3
    simp [Cursor.ahead_advance]

/-- **A step that begins before the end moves on.** -/
theorem next_length_lt {delimiters : Delimiters} {start : Cursor} {step : Step}
    (h : next delimiters start = .ok step) (hremaining : start.ahead ≠ []) :
    step.cursor.ahead.length < start.ahead.length := by
  have hahead := congrArg List.length (next_ahead h).1
  rw [List.length_append] at hahead
  rcases next_progress h with hnil | hne
  · rw [hnil]
    exact List.length_pos_iff.mpr hremaining
  · have := List.length_pos_iff.mpr hne
    omega

/-! ## The run -/

/-- **All tokens from a point on**, step by step. -/
def run (delimiters : Delimiters) (cursor : Cursor) : Except Fault (List Token) :=
  if hremaining : cursor.ahead = [] then .ok []
  else
    match h : next delimiters cursor with
    | .error fault => .error fault
    | .ok step =>
      have := next_length_lt h hremaining
      (run step.delimiters step.cursor).map (step.tokens ++ ·)
termination_by cursor.ahead.length

end Lexer

/-- **The tokens of a template.** -/
def tokenize (source : Chars) : Except Fault (List Token) := do
  let tokens ← Lexer.run .standard (.start source)
  if Token.writtenAll tokens = source then return tokens else throw .torn

end Mustache
