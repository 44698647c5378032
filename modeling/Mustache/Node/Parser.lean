import Mustache.Fault
import Mustache.Node
import Mustache.Token.Lexer

/-!
# From tokens to nodes

`Document.ofTokens` reads tokens from left to right into a tree. It keeps the blocks that are open,
innermost first, each with the nodes that came before it, and the nodes read so far inside the
innermost one. An opening tag opens a block; a closing tag must name the innermost open block, and
closes it; at the end no block may be open. Comments and delimiter tags leave no node.

A fault is reported at the tag that shows it: the closing tag that does not fit, or the opening tag
of the innermost block left open. Its place is known only when the template is given along with the
tokens.
-/

namespace Mustache

/-- **An open block**: its opening tag, and the nodes before it, nearest first. -/
structure OpenBlock where
  tag : Tag
  inverted : Bool
  before : List Node

/-- The name an open block must be closed by. -/
def OpenBlock.name (block : OpenBlock) : Chars := block.tag.content

/-- **A tree being built**: the nodes read inside the innermost open block, nearest first, and the
open blocks, innermost first. -/
structure Builder where
  done : List Node
  enclosing : List OpenBlock

namespace Builder

/-- Nothing was read. -/
def empty : Builder := ⟨[], []⟩

/-- One more node inside the innermost open block. -/
def add (builder : Builder) (node : Node) : Builder :=
  { builder with done := node :: builder.done }

/-- A block opened by a tag. -/
def openBlock (builder : Builder) (tag : Tag) (inverted : Bool) : Builder :=
  ⟨[], ⟨tag, inverted, builder.done⟩ :: builder.enclosing⟩

/-- The place of a tag, when the template is known. -/
def placeOf (source : Chars) (tag : Tag) : Place :=
  if source = [] then .nowhere else .ofPosition (.ofOffset source tag.offset)

/-- **The innermost open block closed by a tag** that must name it. -/
def closeBlock (builder : Builder) (source : Chars) (tag : Tag) : Except Fault Builder :=
  match builder.enclosing with
  | [] => .error (.malformed (.unexpectedClose tag.content) (placeOf source tag))
  | block :: enclosing =>
    if block.name = tag.content then
      .ok ⟨.block block.name block.inverted builder.done.reverse :: block.before, enclosing⟩
    else .error (.malformed (.mismatchedClose block.name tag.content) (placeOf source tag))

/-- **One more tag.** -/
def readTag (builder : Builder) (source : Chars) (tag : Tag) : Except Fault Builder :=
  match tag.kind? with
  | none => .error (.unknownSigil tag.sigil)
  | some .opening => .ok (builder.openBlock tag false)
  | some .inverted => .ok (builder.openBlock tag true)
  | some .closing => builder.closeBlock source tag
  | some .partialTag | some .parentTag =>
    .ok (builder.add (.inclusion tag.content tag.spaceBefore))
  | some .comment | some .delimiters => .ok builder
  | some .escaped => .ok (builder.add (.interpolation tag.content true))
  | some .unescaped | some .triple => .ok (builder.add (.interpolation tag.content false))

/-- **One more token.** -/
def read (source : Chars) (builder : Builder) : Token → Except Fault Builder
  | .text text _ => .ok (builder.add (.text text))
  | .tag tag => builder.readTag source tag

/-- **The document read**, unless a block is still open. -/
def finish (builder : Builder) (source : Chars) : Except Fault Document :=
  match builder.enclosing with
  | [] => .ok ⟨builder.done.reverse⟩
  | block :: _ => .error (.malformed (.unclosed block.name) (placeOf source block.tag))

end Builder

namespace Document

/-- **The document of a sequence of tokens.** The template, where it is known, gives faults their
place. -/
def ofTokens (tokens : List Token) (source : Chars) : Except Fault Document := do
  let builder ← tokens.foldlM (Builder.read source) .empty
  builder.finish source

/-- **The document of a template.** -/
def parse (source : Chars) : Except Fault Document := do
  let tokens ← tokenize source
  ofTokens tokens source

end Document

end Mustache
