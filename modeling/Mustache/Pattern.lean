import Mustache.Text.Basic
import Mustache.Text.Space
import Mustache.Text.Word

/-!
# The patterns of a tag

A template is cut into tags by a handful of patterns, each matched at a fixed point of the text:
indentation, the blank end of a line, a sigil, padding, a name, the delimiters, and the free
content of comments and delimiter definitions. `Pattern.match?` gives the text a pattern takes, and
`Pattern.written` the pattern's own written form, by which a fault names it.

**The law** (`match?_isPrefix`): what a pattern takes is a beginning of the text it is matched
against.
-/

namespace Mustache

/-- The sigils a tag may carry. -/
def sigils : Chars := ['#', '^', '/', '<', '>', '=', '!', '&', '\x7b']

/-- **The closing form of a sigil**: the sigil itself, or the closing brace for the opening one. -/
def closingSigil (sigil : Chars) : Chars :=
  if sigil = ['\x7b'] then ['\x7d'] else sigil

/-- A tag with this sigil has free content, up to its end: a comment or a delimiter definition. -/
def isFreeform (sigil : Chars) : Bool := sigil = ['!'] || sigil = ['=']

/-- **A pattern**, matched at a fixed point of a text. -/
inductive Pattern where
  /-- Any run of tabs and spaces. -/
  | indent
  /-- Tabs and spaces up to the end of the line or of the text. -/
  | endOfLine
  /-- At most one sigil. -/
  | optionalSigil
  /-- Any run of spaces. -/
  | padding
  /-- Any run of characters of a name. -/
  | nameRun
  /-- Everything that is left. -/
  | everything
  /-- Exactly this text. -/
  | literal (text : Chars)
  /-- The closing form of a sigil, or nothing. -/
  | closeSigil (sigil : Chars)
  /-- The content of a tag with this sigil, where `close` ends a tag. -/
  | content (sigil close : Chars)
deriving DecidableEq, Repr

namespace Pattern

/-- **Free content**: the shortest run after which the closing delimiter stands, with or without
the closing sigil before it. -/
def freeContent (closing close : Chars) : Chars → Option Chars
  | [] => if close.isPrefixOf [] || (closing ++ close).isPrefixOf [] then some [] else none
  | c :: rest =>
    if close.isPrefixOf (c :: rest) || (closing ++ close).isPrefixOf (c :: rest) then some []
    else (freeContent closing close rest).map (c :: ·)

/-- **What the pattern takes** from the beginning of a text. -/
def match? : Pattern → Chars → Option Chars
  | .indent, text => some (text.takeWhile Text.isBlank)
  | .endOfLine, text =>
    match text.dropWhile Text.isBlank with
    | [] => some (text.takeWhile Text.isBlank)
    | '\n' :: _ => some (text.takeWhile Text.isBlank ++ ['\n'])
    | '\r' :: '\n' :: _ => some (text.takeWhile Text.isBlank ++ ['\r', '\n'])
    | _ => none
  | .optionalSigil, [] => some []
  | .optionalSigil, c :: _ => if sigils.contains c then some [c] else some []
  | .padding, text => some (text.takeWhile (· = ' '))
  | .nameRun, text => some (text.takeWhile Text.isName)
  | .everything, text => some text
  | .literal wanted, text => if wanted.isPrefixOf text then some wanted else none
  | .closeSigil sigil, text =>
    if (closingSigil sigil).isPrefixOf text then some (closingSigil sigil) else some []
  | .content sigil close, text =>
    if isFreeform sigil then freeContent (closingSigil sigil) close text
    else some (text.takeWhile Text.isName)

/-! ## Written forms -/

/-- The characters that stand for something else in a written pattern. -/
def special : Chars :=
  ['(', ')', '[', ']', '\x7b', '\x7d', '?', '*', '+', '-', '|', '^', '$', '\\', '.', '&', '~', '#',
    ' ', '\t', '\n', '\r', '\x0b', '\x0c']

/-- A text as a pattern for exactly that text: a backslash before each special character. -/
def literally (text : Chars) : Chars :=
  text.flatMap fun c => if special.contains c then ['\\', c] else [c]

/-- The written form of an optional closing sigil. -/
def closeSigilWritten (sigil : Chars) : Chars :=
  if sigil = [] then [] else "(?:".toList ++ literally (closingSigil sigil) ++ ")?".toList

/-- The written form of the characters of a name. -/
def nameWritten : Chars := "[\\w?!/.-]*".toList

/-- **The written form of a pattern.** -/
def written : Pattern → Chars
  | .indent => "[\\t ]*".toList
  | .endOfLine => "[\\t ]*(?:\\r\\n|\\n|\\Z)".toList
  | .optionalSigil => "[#^/<>=!&\x7b]?".toList
  | .padding => " *".toList
  | .nameRun => nameWritten
  | .everything => ".*".toList
  | .literal text => literally text
  | .closeSigil sigil => closeSigilWritten sigil
  | .content sigil close =>
    if isFreeform sigil then
      ".*?(?=".toList ++ closeSigilWritten sigil ++ literally close ++ ")".toList
    else nameWritten

/-- The written form by which a fault names the definition of a pair of delimiters. -/
def delimiterPairWritten : Chars := "<open> <close>".toList

/-! ## What a match takes -/

theorem freeContent_isPrefix {closing close text taken : Chars}
    (h : freeContent closing close text = some taken) : taken <+: text := by
  induction text generalizing taken with
  | nil =>
    simp only [freeContent] at h
    split at h
    · cases h; exact List.nil_prefix
    · cases h
  | cons c rest ih =>
    simp only [freeContent] at h
    split at h
    · cases h; exact List.nil_prefix
    · obtain ⟨tail, ht, rfl⟩ := Option.map_eq_some_iff.mp h
      exact List.cons_prefix_cons.mpr ⟨rfl, ih ht⟩

private theorem endOfLine_isPrefix {text taken : Chars}
    (h : match? .endOfLine text = some taken) : taken <+: text := by
  have hsplit : text.takeWhile Text.isBlank ++ text.dropWhile Text.isBlank = text :=
    List.takeWhile_append_dropWhile
  simp only [match?] at h
  split at h
  · cases h; exact List.takeWhile_prefix _
  next rest hrest =>
    cases h
    exact ⟨rest, by rw [hrest] at hsplit; simpa using hsplit⟩
  next rest hrest =>
    cases h
    exact ⟨rest, by rw [hrest] at hsplit; simpa using hsplit⟩
  · cases h

/-- **A match is a beginning of the text.** -/
theorem match?_isPrefix {pattern : Pattern} {text taken : Chars}
    (h : pattern.match? text = some taken) : taken <+: text := by
  cases pattern with
  | endOfLine => exact endOfLine_isPrefix h
  | indent => cases h; exact List.takeWhile_prefix _
  | padding => cases h; exact List.takeWhile_prefix _
  | nameRun => cases h; exact List.takeWhile_prefix _
  | everything => cases h; exact List.prefix_refl _
  | optionalSigil =>
    cases text with
    | nil => cases h; exact List.nil_prefix
    | cons c rest =>
      simp only [match?] at h
      split at h <;> cases h
      · exact ⟨rest, rfl⟩
      · exact List.nil_prefix
  | literal wanted =>
    simp only [match?] at h
    split at h
    next hp => cases h; exact List.isPrefixOf_iff_prefix.mp hp
    · cases h
  | closeSigil sigil =>
    simp only [match?] at h
    split at h <;> cases h
    next hp => exact List.isPrefixOf_iff_prefix.mp hp
    · exact List.nil_prefix
  | content sigil close =>
    simp only [match?] at h
    split at h
    · exact freeContent_isPrefix h
    · cases h; exact List.takeWhile_prefix _

end Pattern

end Mustache
