import Mustache.Text.Basic

/-!
# Nodes

A template that was read is a tree. Its leaves are plain text, interpolations and partial tags; a
block holds the nodes between its opening and its closing tag. A whole document is a node too, so
that a partial can stand in place, as its own document, inside another tree.
-/

namespace Mustache

/-- **A node of a template.** -/
inductive Node where
  /-- Plain text. -/
  | text (text : Chars)
  /-- The value of a name, escaped or as it is. -/
  | interpolation (name : Chars) (escaped : Bool)
  /-- Nodes that are rendered for each item of a value or, inverted, when it has none. -/
  | block (name : Chars) (inverted : Bool) (children : List Node)
  /-- A partial, and the indentation of its tag. -/
  | inclusion (name : Chars) (indent : Chars)
  /-- A document in place. -/
  | document (children : List Node)
deriving Repr, Inhabited, BEq

/-- **A document**: the nodes of a whole template. -/
structure Document where
  children : List Node
deriving Repr, Inhabited, BEq

/-- The document as one node. -/
def Document.toNode (document : Document) : Node := .document document.children

end Mustache
