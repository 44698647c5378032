import Mustache.Proofs.Text.Place

/-!
# A text by its lines

A text is its **full lines**, each with its line feed behind it, and then its **last line**, which
ends with the text (`ByLines`). Every text can be taken apart so (`exists_byLines`), and what is asked
about the lines of a text is read off the parts: the lines themselves (`ByLines.lines_eq`), how many
line feeds there are (`ByLines.count_eq`), and what stands behind the last of them
(`ByLines.lastLine_eq`). So there is one way only to take a text apart.
-/

namespace Mustache

namespace Chars

/-! ## Pieces between separators -/

/-- **The pieces of two texts with a separator between** are those of both. -/
theorem split_append (sep : Char) (left right : Chars) :
    split sep (left ++ sep :: right) = split sep left ++ split sep right := by
  induction left with
  | nil =>
    show split sep (sep :: right) = [] :: split sep right
    rw [split, if_pos rfl]
  | cons c left ih =>
    rw [List.cons_append, split, split, ih]
    split
    · rfl
    · obtain ⟨piece, pieces, hpieces⟩ := List.exists_cons_of_ne_nil (split_ne_nil sep left)
      rw [hpieces]
      rfl

/-- What holds no separator belongs to the first piece of what follows. -/
theorem split_append_of_not_mem {sep : Char} {left : Chars} (h : sep ∉ left) (right : Chars) :
    split sep (left ++ right) = (split sep right).modifyHead (left ++ ·) := by
  obtain ⟨piece, pieces, hpieces⟩ := List.exists_cons_of_ne_nil (split_ne_nil sep right)
  rw [hpieces, List.modifyHead_cons]
  induction left with
  | nil => exact hpieces
  | cons c left ih =>
    rw [List.mem_cons, not_or] at h
    rw [List.cons_append, split, if_neg (Ne.symm h.1), ih h.2]
    rfl

/-- A text without the separator is one piece. -/
theorem split_of_not_mem {sep : Char} {text : Chars} (h : sep ∉ text) :
    split sep text = [text] := by
  have hsplit := split_append_of_not_mem h []
  rwa [List.append_nil, split, List.modifyHead_cons, List.append_nil] at hsplit

/-! ## Full lines -/

/-- Lines one after the other, each with its line feed behind it. -/
def endLines (rows : List Chars) : Chars := rows.flatMap (· ++ ['\n'])

@[simp] theorem endLines_nil : endLines [] = [] := rfl

theorem endLines_cons (row : Chars) (rows : List Chars) :
    endLines (row :: rows) = row ++ '\n' :: endLines rows := by
  rw [endLines, List.flatMap_cons, List.append_assoc]
  rfl

theorem unlines_concat (full : List Chars) (last : Chars) :
    unlines (full ++ [last]) = endLines full ++ last := by
  induction full with
  | nil => rfl
  | cons row full ih =>
    obtain ⟨next, rest, hrest⟩ := List.exists_cons_of_ne_nil (l := full ++ [last]) (by simp)
    rw [endLines_cons, List.append_assoc, List.cons_append, List.cons_append, ← ih, hrest]
    rfl

/-- **Full lines are the first lines of a text**, whatever follows them. -/
theorem lines_endLines_append {full : List Chars} (h : ∀ row ∈ full, '\n' ∉ row) (text : Chars) :
    lines (endLines full ++ text) = full ++ lines text := by
  induction full with
  | nil => rfl
  | cons row full ih =>
    have hrow := split_of_not_mem (h row List.mem_cons_self)
    rw [endLines_cons, List.append_assoc, List.cons_append, lines, split_append, hrow]
    exact congrArg (row :: ·) (ih fun other hother => h other (List.mem_cons_of_mem _ hother))

theorem count_endLines {full : List Chars} (h : ∀ row ∈ full, '\n' ∉ row) :
    (endLines full).count '\n' = full.length := by
  induction full with
  | nil => rfl
  | cons row full ih =>
    have hrow := List.count_eq_zero_of_not_mem (h row List.mem_cons_self)
    have hrest := ih fun other hother => h other (List.mem_cons_of_mem _ hother)
    rw [endLines_cons, List.count_append, hrow, List.count_cons_self, hrest, List.length_cons,
      Nat.zero_add]

theorem lastLine_endLines (full : List Chars) : lastLine (endLines full) = [] := by
  induction full using List.reverseRecOn with
  | nil => rfl
  | append_singleton full row _ =>
    rw [endLines, List.flatMap_append, List.flatMap_singleton, ← List.append_assoc,
      lastLine_concat, if_pos rfl]

/-! ## The parts of a text -/

/-- **A text by its lines**: the full lines, each with its line feed behind it, and the last. -/
structure ByLines (text : Chars) (full : List Chars) (last : Chars) : Prop where
  text_eq : text = endLines full ++ last
  full_inLine : ∀ row ∈ full, '\n' ∉ row
  last_inLine : '\n' ∉ last

/-- Every text can be taken apart by its lines. -/
theorem exists_byLines (text : Chars) : ∃ full last, ByLines text full last := by
  induction text with
  | nil => exact ⟨[], [], rfl, by simp, by simp⟩
  | cons c text ih =>
    obtain ⟨full, last, rfl, hfull, hlast⟩ := ih
    by_cases hc : c = '\n'
    · subst hc
      refine ⟨[] :: full, last, rfl, ?_, hlast⟩
      rintro row (_ | ⟨_, hrow⟩)
      · exact List.not_mem_nil
      · exact hfull row hrow
    · -- the character goes in front of the first line, which may be the last
      cases full with
      | nil =>
        refine ⟨[], c :: last, rfl, by simp, ?_⟩
        rw [List.mem_cons, not_or]
        exact ⟨Ne.symm hc, hlast⟩
      | cons row full =>
        refine ⟨(c :: row) :: full, last, ?_, ?_, hlast⟩
        · rw [endLines_cons, endLines_cons]
          rfl
        · rintro other (_ | ⟨_, hother⟩)
          · rw [List.mem_cons, not_or]
            exact ⟨Ne.symm hc, hfull row List.mem_cons_self⟩
          · exact hfull other (List.mem_cons_of_mem _ hother)

namespace ByLines

variable {text last : Chars} {full : List Chars}

/-- The lines of a text are the full ones and the last. -/
theorem lines_eq (h : ByLines text full last) : lines text = full ++ [last] := by
  rw [h.text_eq, lines_endLines_append h.full_inLine]
  exact congrArg (full ++ ·) (split_of_not_mem h.last_inLine)

/-- There is a line feed for each full line. -/
theorem count_eq (h : ByLines text full last) : text.count '\n' = full.length := by
  rw [h.text_eq, List.count_append, count_endLines h.full_inLine,
    List.count_eq_zero_of_not_mem h.last_inLine, Nat.add_zero]

/-- Behind the last line feed stands the last line. -/
theorem lastLine_eq (h : ByLines text full last) : lastLine text = last := by
  rw [h.text_eq, lastLine_append_of_not_mem h.last_inLine, lastLine_endLines, List.nil_append]

/-- Joining the lines gives the text back. -/
theorem unlines_eq (h : ByLines text full last) : unlines (full ++ [last]) = text := by
  rw [unlines_concat, h.text_eq]

end ByLines

end Chars

end Mustache
