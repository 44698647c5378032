import Mustache.Proofs.Text.Lines

/-!
# Indentations act on texts

The lines of a text indented are the lines of the text with the indentation in front, but for an
empty last line, which stays empty (`ByLines.indentText`). That one description of the result is all
that is needed: two indentations, one after the other, are one (the later stands in front of the
earlier), the line feeds stay, and an empty last line stays the only empty last line.

So nothing is lost. **Outdenting** removes the indentation from the front of every line but an empty
last one, and fails where a line does not begin with it; what was indented is given back
(`indentText_acts`).

An indentation holds no line feed. It need not be blank, as the margins of a `Layout` are.
-/

namespace Mustache

open Chars

/-- **Each line without the indentation in front**, but for an empty last line. There is none if some
line does not begin with the indentation. -/
def outdentLines? (indent : Chars) : List Chars → Option (List Chars)
  | [] => some []
  | [last] => if last = [] then some [[]] else (last.dropPrefix? indent).map ([·])
  | line :: next :: rest => do
    let row ← line.dropPrefix? indent
    let rows ← outdentLines? indent (next :: rest)
    some (row :: rows)

/-- **The text with its lines outdented.** -/
def outdentText? (indent text : Chars) : Option Chars :=
  (outdentLines? indent (lines text)).map unlines

/-- The last line of a text, indented. -/
def indentLast (indent last : Chars) : Chars := if last = [] then [] else indent ++ last

variable {indent last : Chars}

theorem indentLast_eq_nil_iff : indentLast indent last = [] ↔ last = [] := by
  unfold indentLast
  by_cases hlast : last = [] <;> simp [hlast]

theorem indentLast_indentLast (outer : Chars) :
    indentLast outer (indentLast indent last) = indentLast (outer ++ indent) last := by
  unfold indentLast
  by_cases hlast : last = [] <;> simp [hlast]

/-! ## Indenting -/

/-- Full lines are indented, and then the last. -/
theorem indentLines_concat (indent : Chars) (full : List Chars) (last : Chars) :
    indentLines indent (full ++ [last]) = full.map (indent ++ ·) ++ [indentLast indent last] := by
  induction full with
  | nil =>
    show (if last = [] then [[]] else [indent ++ last]) = [indentLast indent last]
    unfold indentLast
    split <;> rfl
  | cons row full ih =>
    rw [List.cons_append, Layout.indentLines_cons (fun _ => by simp), ih]
    rfl

/-- **The lines of a text indented** are its full lines with the indentation in front, and its last
line so too, unless that is empty. -/
theorem Chars.ByLines.indentText {text : Chars} {full : List Chars} (h : ByLines text full last)
    (hindent : '\n' ∉ indent) :
    ByLines (indentText indent text) (full.map (indent ++ ·)) (indentLast indent last) := by
  refine ⟨?_, ?_, ?_⟩
  · unfold Mustache.indentText
    by_cases hnil : indent = []
    · subst hnil
      have hlast : indentLast [] last = last := by
        unfold indentLast
        by_cases hlast : last = [] <;> simp [hlast]
      simp only [if_true, hlast, List.nil_append, List.map_id', h.text_eq]
    · rw [if_neg hnil, h.lines_eq, indentLines_concat, unlines_concat]
  · intro row hrow
    obtain ⟨inner, hinner, rfl⟩ := List.mem_map.mp hrow
    rw [List.mem_append, not_or]
    exact ⟨hindent, h.full_inLine inner hinner⟩
  · unfold indentLast
    split
    · exact List.not_mem_nil
    · rw [List.mem_append, not_or]
      exact ⟨hindent, h.last_inLine⟩

/-! ## Outdenting -/

theorem dropPrefix?_append (indent line : Chars) :
    (indent ++ line).dropPrefix? indent = some line :=
  List.dropPrefix?_eq_some_iff.mpr ⟨indent, rfl, beq_self_eq_true indent⟩

/-- **Outdenting undoes indenting**, line by line. -/
theorem outdentLines?_indented (indent : Chars) (full : List Chars) (last : Chars) :
    outdentLines? indent (full.map (indent ++ ·) ++ [indentLast indent last])
      = some (full ++ [last]) := by
  induction full with
  | nil =>
    show (if indentLast indent last = [] then some [[]]
      else ((indentLast indent last).dropPrefix? indent).map ([·])) = some [last]
    by_cases hlast : last = []
    · rw [if_pos (indentLast_eq_nil_iff.mpr hlast), hlast]
    · rw [if_neg (mt indentLast_eq_nil_iff.mp hlast), indentLast, if_neg hlast,
        dropPrefix?_append]
      rfl
  | cons row full ih =>
    obtain ⟨next, rest, hrest⟩ := List.exists_cons_of_ne_nil
      (l := full.map (indent ++ ·) ++ [indentLast indent last]) (by simp)
    rw [hrest] at ih
    rw [List.map_cons, List.cons_append, hrest, outdentLines?, dropPrefix?_append, ih]
    rfl

/-- What was indented is given back. -/
theorem outdentText?_indentText (hindent : '\n' ∉ indent) (text : Chars) :
    outdentText? indent (indentText indent text) = some text := by
  obtain ⟨full, last, h⟩ := exists_byLines text
  rw [outdentText?, (h.indentText hindent).lines_eq, outdentLines?_indented, Option.map_some,
    h.unlines_eq]

/-- Two indentations, one after the other, are one. -/
theorem indentText_indentText (hindent : '\n' ∉ indent) (outer text : Chars) :
    indentText outer (indentText indent text) = indentText (outer ++ indent) text := by
  obtain ⟨full, last, h⟩ := exists_byLines text
  have hinner := h.indentText hindent
  by_cases houter : outer = []
  · subst houter
    rfl
  · have hboth : outer ++ indent ≠ [] := fun h => houter (List.append_eq_nil_iff.mp h).1
    have hmap : (full.map (indent ++ ·)).map (outer ++ ·) = full.map (outer ++ indent ++ ·) := by
      simp only [List.map_map, Function.comp_def, List.append_assoc]
    calc indentText outer (indentText indent text)
      _ = unlines (indentLines outer (lines (indentText indent text))) := if_neg houter
      _ = unlines (full.map (outer ++ indent ++ ·) ++ [indentLast (outer ++ indent) last]) := by
        rw [hinner.lines_eq, indentLines_concat, hmap, indentLast_indentLast]
      _ = unlines (indentLines (outer ++ indent) (lines text)) := by
        rw [h.lines_eq, indentLines_concat]
      _ = indentText (outer ++ indent) text := (if_neg hboth).symm

/-- **Indentations act faithfully on texts**: one after the other they are one, they leave line feeds
and an empty last line as they are, and outdenting takes them away. -/
theorem indentText_acts (hindent : '\n' ∉ indent) (outer text : Chars) :
    indentText outer (indentText indent text) = indentText (outer ++ indent) text
      ∧ (indentText indent text).count '\n' = text.count '\n'
      ∧ (lastLine (indentText indent text) = [] ↔ lastLine text = [])
      ∧ outdentText? indent (indentText indent text) = some text
      ∧ Function.Injective (indentText indent) := by
  obtain ⟨full, last, h⟩ := exists_byLines text
  have hindented := h.indentText hindent
  refine ⟨indentText_indentText hindent outer text, ?_, ?_, outdentText?_indentText hindent text,
    ?_⟩
  · rw [hindented.count_eq, h.count_eq, List.length_map]
  · rw [hindented.lastLine_eq, h.lastLine_eq, indentLast_eq_nil_iff]
  · intro first second hsame
    have hgiven := congrArg (outdentText? indent) hsame
    rwa [outdentText?_indentText hindent, outdentText?_indentText hindent, Option.some.injEq]
      at hgiven

/-- An empty line between others is indented, and so is a blank one; the empty last line is not. -/
theorem indentText_acts_empty_lines :
    let text := "a\n\n \n".toList
    '\n' ∉ ['\t'] ∧ indentText ['>', ' '] (indentText ['\t'] text) = "> \ta\n> \t\n> \t \n".toList
      ∧ outdentText? ['\t'] (indentText ['\t'] text) = some text := by
  intro text
  have hindent : '\n' ∉ ['\t'] := by decide
  obtain ⟨hboth, -, -, hgiven, -⟩ := indentText_acts hindent ['>', ' '] text
  exact ⟨hindent, hboth.trans (by decide), hgiven⟩

end Mustache
