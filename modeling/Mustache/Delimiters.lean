import Mustache.Text.Basic
import Mustache.Text.Space

/-!
# Delimiters

A tag stands between two delimiters. A delimiter is a text with at least one character and no white
space, and every way to obtain one shows both (`Delimiter.nonempty`, `Delimiter.dense`): the search
for the next tag rests on them, since an empty delimiter would be found everywhere without moving
on. A delimiter tag defines a new pair by two words.
-/

namespace Mustache

/-- **A delimiter**: a text that is not empty and holds no white space. -/
structure Delimiter where
  text : Chars
  nonempty : text ≠ []
  dense : ∀ c ∈ text, Text.isSpace c = false

/-- A delimiter of one character, written twice. -/
def Delimiter.double (c : Char) (dense : Text.isSpace c = false) : Delimiter where
  text := [c, c]
  nonempty := List.cons_ne_nil _ _
  dense := by
    intro d hd
    simp only [List.mem_cons, List.not_mem_nil, or_false, or_self] at hd
    rw [hd, dense]

/-- **The pair of delimiters in effect.** -/
structure Delimiters where
  opening : Delimiter
  closing : Delimiter

namespace Delimiters

/-- The delimiters at the beginning of every template: two opening and two closing braces. -/
def standard : Delimiters where
  opening := .double '\x7b' (by decide)
  closing := .double '\x7d' (by decide)

/-- **The pair that a definition gives**, when it consists of exactly two words. -/
def ofDefinition? (definition : Chars) : Option Delimiters :=
  match h : Chars.words Text.isSpace definition with
  | [opening, closing] =>
    have hopening := Chars.mem_words (h ▸ List.mem_cons_self :
      opening ∈ Chars.words Text.isSpace definition)
    have hclosing := Chars.mem_words (h ▸ List.mem_cons_of_mem _ List.mem_cons_self :
      closing ∈ Chars.words Text.isSpace definition)
    some ⟨⟨opening, hopening.1, hopening.2⟩, ⟨closing, hclosing.1, hclosing.2⟩⟩
  | _ => none

end Delimiters

end Mustache
