import Mustache.Text.Basic

/-!
# Tokens

A template is a sequence of tokens: stretches of plain text, and tags. A tag is kept in the pieces
it was written in, so that `Token.written` gives back the very characters it was cut from, and the
written forms of all tokens in order make up the template.

The sigil of a tag decides its kind (`TagKind.ofSigil?`). Kinds that print nothing themselves
(`TagKind.standsAlone`) may take their whole line with them when nothing else stands on it; the
blanks and the line ending taken so are the tag's `spaceBefore` and `spaceAfter`.
-/

namespace Mustache

/-- **What a tag does.** -/
inductive TagKind where
  /-- Prints a value, escaped. -/
  | escaped
  /-- Prints a value as it is. -/
  | unescaped
  /-- Prints a value as it is, written with a third brace. -/
  | triple
  /-- Opens a block that is rendered for each item of a value. -/
  | opening
  /-- Opens a block that is rendered when a value has no item. -/
  | inverted
  /-- Closes a block. -/
  | closing
  /-- Includes a partial. -/
  | partialTag
  /-- Includes a partial, written as a parent. -/
  | parentTag
  /-- Says nothing to the reader of the output. -/
  | comment
  /-- Changes the delimiters. -/
  | delimiters
deriving DecidableEq, Repr, Inhabited

namespace TagKind

/-- The sigil that marks the kind. -/
def sigil : TagKind → Chars
  | .escaped => []
  | .unescaped => ['&']
  | .triple => ['\x7b']
  | .opening => ['#']
  | .inverted => ['^']
  | .closing => ['/']
  | .partialTag => ['>']
  | .parentTag => ['<']
  | .comment => ['!']
  | .delimiters => ['=']

/-- All kinds of tags. -/
def all : List TagKind :=
  [.escaped, .unescaped, .triple, .opening, .inverted, .closing, .partialTag, .parentTag,
    .comment, .delimiters]

/-- **The kind that a sigil marks**, if it marks one. -/
def ofSigil? (sigil : Chars) : Option TagKind := all.find? (·.sigil = sigil)

/-- A sigil marks its own kind. -/
theorem ofSigil?_sigil (kind : TagKind) : ofSigil? kind.sigil = some kind := by
  cases kind <;> decide

/-- The kind may take its whole line with it. -/
def standsAlone : TagKind → Bool
  | .escaped | .unescaped | .triple => false
  | _ => true

end TagKind

/-- **A tag**, in the pieces it was written in. -/
structure Tag where
  openTag : Chars
  sigil : Chars
  paddingBefore : Chars
  /-- The name, the comment or the definition of delimiters. -/
  content : Chars
  paddingAfter : Chars
  closeSigil : Chars
  closeTag : Chars
  /-- The indentation taken by a tag that is alone on its line. -/
  spaceBefore : Chars
  /-- The blanks and the line ending taken by a tag that is alone on its line. -/
  spaceAfter : Chars
  standalone : Bool
  /-- The offset of the opening delimiter in the template. -/
  offset : Int
deriving DecidableEq, Repr, Inhabited

namespace Tag

/-- The kind of the tag, when its sigil marks one. -/
def kind? (tag : Tag) : Option TagKind := TagKind.ofSigil? tag.sigil

/-- The characters of the tag, without the line around it. -/
def core (tag : Tag) : Chars :=
  tag.openTag ++ tag.sigil ++ tag.paddingBefore ++ tag.content ++ tag.paddingAfter
    ++ tag.closeSigil ++ tag.closeTag

/-- **The characters the tag was cut from.** -/
def written (tag : Tag) : Chars := tag.spaceBefore ++ tag.core ++ tag.spaceAfter

/-- The tag as one that is alone on its line, with the rest of the line. -/
def alone (tag : Tag) (before after : Chars) : Tag :=
  { tag with spaceBefore := before, spaceAfter := after, standalone := true }

end Tag

/-- **A token**: plain text or a tag, each with its offset in the template. -/
inductive Token where
  | text (text : Chars) (offset : Int)
  | tag (tag : Tag)
deriving DecidableEq, Repr, Inhabited

namespace Token

/-- **The characters the token was cut from.** -/
def written : Token → Chars
  | .text plain _ => plain
  | .tag piece => piece.written

/-- The characters of all tokens, in order. -/
def writtenAll (tokens : List Token) : Chars := tokens.flatMap written

/-- Plain text as tokens: one, or none when there is no character. -/
def ofText (text : Chars) (offset : Int) : List Token :=
  if text = [] then [] else [.text text offset]

@[simp] theorem writtenAll_nil : writtenAll [] = [] := rfl

@[simp] theorem writtenAll_singleton (token : Token) : writtenAll [token] = token.written := by
  simp [writtenAll]

@[simp] theorem writtenAll_append (xs ys : List Token) :
    writtenAll (xs ++ ys) = writtenAll xs ++ writtenAll ys := by
  simp [writtenAll]

@[simp] theorem writtenAll_ofText (text : Chars) (offset : Int) :
    writtenAll (ofText text offset) = text := by
  by_cases h : text = [] <;> simp [ofText, writtenAll, written, h]

/-- **The token of an index**; a negative index counts from the end. -/
def ofIndex? (tokens : List Token) (index : Int) : Option Token :=
  let fromStart := if index < 0 then index + tokens.length else index
  if fromStart < 0 then none else tokens[fromStart.toNat]?

end Token

end Mustache
