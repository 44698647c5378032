/-!
# Texts as lists of characters

Templates, names and rendered output are lists of characters (`Chars`), so that an offset, a length
and a column all count code points. This module cuts such a text: at a separator (`split`, undone
by `join`), into words, before its trailing blanks, and at the first occurrence of another text
(`offsetOf?`).

**The laws.** `join_split`: cutting at a separator and joining again gives the text back.
`mem_words`: a word is never empty and holds no blank. `offsetOf?_eq_some`: the offset found is one
at which the needle stands.
-/

namespace Mustache

/-- **A text**, as the list of its characters. -/
abbrev Chars := List Char

namespace Chars

/-! ## Pieces between separators -/

/-- The pieces between the occurrences of `sep`: one more than there are occurrences, so the empty
text is one empty piece. -/
def split (sep : Char) : Chars → List Chars
  | [] => [[]]
  | c :: rest => if c = sep then [] :: split sep rest else (split sep rest).modifyHead (c :: ·)

/-- The pieces one after the other, with `sep` between neighbours. -/
def join (sep : Char) : List Chars → Chars
  | [] => []
  | [piece] => piece
  | piece :: next :: rest => piece ++ sep :: join sep (next :: rest)

theorem split_ne_nil (sep : Char) (text : Chars) : split sep text ≠ [] := by
  induction text with
  | nil => simp [split]
  | cons c rest ih =>
    by_cases h : c = sep
    · simp [split, h]
    · cases hs : split sep rest with
      | nil => exact absurd hs ih
      | cons piece pieces => simp [split, h, hs]

/-- Cutting loses nothing. -/
theorem join_split (sep : Char) (text : Chars) : join sep (split sep text) = text := by
  induction text with
  | nil => rfl
  | cons c rest ih =>
    cases hs : split sep rest with
    | nil => exact absurd hs (split_ne_nil sep rest)
    | cons piece pieces =>
      rw [hs] at ih
      by_cases h : c = sep
      · subst h
        simp [split, hs, join, ih]
      · cases pieces with
        | nil => simp_all [split, join]
        | cons next others => simp_all [split, join]

/-- The lines of a text: its pieces between line feeds. -/
def lines (text : Chars) : List Chars := split '\n' text

/-- Lines joined by line feeds. -/
def unlines (rows : List Chars) : Chars := join '\n' rows

/-! ## Words -/

/-- The text begins with a character that is not blank. -/
def startsWord (blank : Char → Bool) : Chars → Bool
  | [] => false
  | c :: _ => !blank c

/-- **The words of a text**: its longest runs of characters that are not blank. -/
def words (blank : Char → Bool) : Chars → List Chars
  | [] => []
  | c :: rest =>
    if blank c then words blank rest
    else if startsWord blank rest then (words blank rest).modifyHead (c :: ·)
    else [c] :: words blank rest

/-- A word holds at least one character, and no blank. -/
theorem mem_words {blank : Char → Bool} {text word : Chars} (h : word ∈ words blank text) :
    word ≠ [] ∧ ∀ c ∈ word, blank c = false := by
  induction text generalizing word with
  | nil => simp [words] at h
  | cons c rest ih =>
    simp only [words] at h
    split at h
    · exact ih h
    next hc =>
      have hc : blank c = false := by simpa using hc
      split at h
      · cases hw : words blank rest with
        | nil => simp [hw] at h
        | cons first others =>
          rw [hw] at h ih
          rcases List.mem_cons.mp h with rfl | h
          · have := ih List.mem_cons_self
            exact ⟨by simp, by simpa [hc] using this.2⟩
          · exact ih (List.mem_cons_of_mem _ h)
      · rcases List.mem_cons.mp h with rfl | h
        · exact ⟨by simp, by simpa using hc⟩
        · exact ih h

/-! ## Ends and occurrences -/

/-- The text without the characters of the class at its end. -/
def trimEnd (p : Char → Bool) (text : Chars) : Chars := (text.reverse.dropWhile p).reverse

/-- The text without the characters of the class at either end. -/
def trim (p : Char → Bool) (text : Chars) : Chars := trimEnd p (text.dropWhile p)

/-- **The first offset at which `needle` stands in the text.** -/
def offsetOf? (needle : Chars) : Chars → Option Nat
  | [] => if needle.isPrefixOf [] then some 0 else none
  | c :: rest =>
    if needle.isPrefixOf (c :: rest) then some 0 else (offsetOf? needle rest).map (· + 1)

/-- At the offset found the needle stands, within the text. -/
theorem offsetOf?_eq_some {needle text : Chars} {n : Nat} (h : offsetOf? needle text = some n) :
    n ≤ text.length ∧ needle <+: text.drop n := by
  induction text generalizing n with
  | nil =>
    simp only [offsetOf?] at h
    split at h
    next hp => simp_all
    · cases h
  | cons c rest ih =>
    simp only [offsetOf?] at h
    split at h
    next hp =>
      cases h
      exact ⟨Nat.zero_le _, by simpa using List.isPrefixOf_iff_prefix.mp hp⟩
    · obtain ⟨m, hm, rfl⟩ := Option.map_eq_some_iff.mp h
      have := ih hm
      exact ⟨by simpa using this.1, by simpa using this.2⟩

/-- The decimal digits of a number. -/
def ofNat (n : Nat) : Chars := Nat.toDigits 10 n

/-- The decimal digits of an integer, after a minus sign when it is negative. -/
def ofInt : Int → Chars
  | .ofNat n => ofNat n
  | .negSucc n => '-' :: ofNat (n + 1)

end Chars

end Mustache
