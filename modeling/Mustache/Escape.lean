import Mustache.Fault

/-!
# Escaping

What a tag prints may be passed through an **escaper**. The usual one, `escapeHtml`, replaces the
five characters that mean something in HTML by entities and leaves all others alone; since the
ampersand is among the five, every ampersand of its output begins an entity. A caller may choose
another escaper, or none; an escaper of the caller's own may fail.
-/

namespace Mustache

/-- The entity that stands for a character of markup. -/
def entity? : Char → Option Chars
  | '&' => some "&amp;".toList
  | '<' => some "&lt;".toList
  | '>' => some "&gt;".toList
  | '"' => some "&quot;".toList
  | '\'' => some "&#x27;".toList
  | _ => none

/-- **HTML escaping**: each character of markup becomes its entity. -/
def escapeHtml (text : Chars) : Chars := text.flatMap fun c => (entity? c).getD [c]

/-- **An escaper**, with the name it is known by. -/
structure Escaper where
  name : Chars
  apply : Chars → Except Fault Chars

namespace Escaper

/-- HTML entities. -/
def html : Escaper := ⟨"html".toList, fun text => .ok (escapeHtml text)⟩

/-- A backslash before each quotation mark. -/
def quote : Escaper := ⟨"quote".toList, fun text => .ok (text.flatMap fun c =>
  if c = '"' then ['\\', c] else [c])⟩

/-- The text between square brackets. -/
def bracket : Escaper := ⟨"bracket".toList, fun text => .ok ('[' :: text ++ [']'])⟩

/-- No text at all. -/
def empty : Escaper := ⟨"empty".toList, fun _ => .ok []⟩

/-- The escaper of a name. -/
def ofName? (name : Chars) : Option Escaper :=
  [html, quote, bracket, empty].find? (·.name = name)

end Escaper

end Mustache
