import Mustache.Text.Basic

/-!
# Indenting a partial

A partial whose tag is alone on its line is indented as that tag was: every line of its text gets
the indentation in front. A last line that is empty stays empty, so that a text ending in a line
feed does not indent what comes after it.
-/

namespace Mustache

/-- Each line with the indentation in front, but for an empty last line. -/
def indentLines (indent : Chars) : List Chars → List Chars
  | [] => []
  | [last] => if last = [] then [[]] else [indent ++ last]
  | line :: next :: rest => (indent ++ line) :: indentLines indent (next :: rest)

/-- **The text with its lines indented.** -/
def indentText (indent text : Chars) : Chars :=
  if indent = [] then text else Chars.unlines (indentLines indent (Chars.lines text))

end Mustache
