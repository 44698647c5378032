import Mathlib.Data.List.DropRight
import Mustache.Delimiters
import Mustache.Pattern

/-!
# Solid texts and where they stand

A **solid** text holds at least one character and no white space; every delimiter is one, and so is
a delimiter behind a closing sigil. White space breaks a text into parts that no solid text reaches
across. So a search for a solid text in `left ++ c :: right`, where `c` is white space, is a search
in `left` and then one in `right`. The module states this for the three searches a template is cut
by: a text standing at the front (`isPrefixOf_append_space`), the first offset at which it stands
(`offsetOf?_append_space`), and the free content before it (`freeContent_append_space`).
-/

namespace Mustache

namespace Text

/-- **A solid text**: at least one character, and no white space. -/
def Solid (text : Chars) : Prop := text ≠ [] ∧ ∀ c ∈ text, isSpace c = false

theorem isSpace_lineFeed : isSpace '\n' = true := by decide

/-- A text without white space stays in its line. -/
theorem lineFeed_not_mem {text : Chars} (h : ∀ c ∈ text, isSpace c = false) : '\n' ∉ text :=
  fun hmem => absurd (h _ hmem) (by decide)

/-- Blanks stay in their line. -/
theorem lineFeed_not_mem_blank {blank : Chars} (h : ∀ c ∈ blank, isBlank c = true) :
    '\n' ∉ blank :=
  fun hmem => absurd (h _ hmem) (by decide)

/-- A run that ends before a line does stays in its line. -/
theorem lineFeed_not_mem_takeWhile {p : Char → Bool} (hp : p '\n' = false) (text : Chars) :
    '\n' ∉ text.takeWhile p := by
  intro hmem
  have h := List.mem_takeWhile_imp hmem
  rw [hp] at h
  cases h

end Text

theorem Delimiter.solid (delimiter : Delimiter) : Text.Solid delimiter.text :=
  ⟨delimiter.nonempty, delimiter.dense⟩

namespace Text

/-- The closing form of a sigil holds no white space. -/
theorem isSpace_closingSigil {sigil : Chars} (hsigil : sigil = [] ∨ ∃ c ∈ sigils, sigil = [c]) :
    ∀ c ∈ closingSigil sigil, isSpace c = false := by
  rcases hsigil with rfl | ⟨c, hc, rfl⟩
  · exact nofun
  · have hall : sigils.all (fun c => (closingSigil [c]).all (! isSpace ·)) = true := by decide
    have hclosing := List.all_eq_true.mp hall c hc
    exact fun d hd => (Bool.not_eq_true' _).mp (List.all_eq_true.mp hclosing d hd)

/-- A solid text stays solid behind characters that are no white space. -/
theorem Solid.append {left right : Chars} (hleft : ∀ c ∈ left, isSpace c = false)
    (hright : Solid right) : Solid (left ++ right) := by
  refine ⟨fun h => hright.1 (List.append_eq_nil_iff.mp h).2, fun c hc => ?_⟩
  rcases List.mem_append.mp hc with hc | hc
  · exact hleft c hc
  · exact hright.2 c hc

theorem Solid.exists_cons {text : Chars} (h : Solid text) :
    ∃ c rest, text = c :: rest ∧ isSpace c = false := by
  cases text with
  | nil => exact absurd rfl h.1
  | cons c rest => exact ⟨c, rest, rfl, h.2 c List.mem_cons_self⟩

theorem Solid.isPrefixOf_nil {needle : Chars} (h : Solid needle) :
    needle.isPrefixOf [] = false := by
  obtain ⟨c, rest, rfl, -⟩ := h.exists_cons
  rfl

/-- A text without white space at the front ends before the first white space. -/
theorem isPrefixOf_append_space {needle : Chars} (hneedle : ∀ c ∈ needle, isSpace c = false)
    {c : Char} (hc : isSpace c = true) (left right : Chars) :
    needle.isPrefixOf (left ++ c :: right) = needle.isPrefixOf left := by
  induction left generalizing needle with
  | nil =>
    cases needle with
    | nil => rfl
    | cons a needle =>
      have ha : a ≠ c := by
        rintro rfl
        rw [hneedle a List.mem_cons_self] at hc
        cases hc
      rw [List.nil_append, List.isPrefixOf_cons_cons, beq_false_of_ne ha, Bool.false_and]
      rfl
  | cons b left ih =>
    cases needle with
    | nil => rfl
    | cons a needle =>
      rw [List.cons_append, List.isPrefixOf_cons_cons, List.isPrefixOf_cons_cons,
        ih fun d hd => hneedle d (List.mem_cons_of_mem _ hd)]

end Text

namespace Chars

open Text

/-- At the front of white space no solid text stands. -/
theorem isPrefixOf_cons_space {needle : Chars} (hneedle : Solid needle) {c : Char}
    (hc : isSpace c = true) (rest : Chars) : needle.isPrefixOf (c :: rest) = false := by
  have h := isPrefixOf_append_space hneedle.2 hc [] rest
  rw [hneedle.isPrefixOf_nil] at h
  exact h

theorem offsetOf?_nil {needle : Chars} (hneedle : Solid needle) : offsetOf? needle [] = none := by
  simp only [offsetOf?, hneedle.isPrefixOf_nil, Bool.false_eq_true, if_false]

theorem offsetOf?_of_isPrefixOf {needle text : Chars} (h : needle.isPrefixOf text = true) :
    offsetOf? needle text = some 0 := by
  cases text with
  | nil => rw [offsetOf?, if_pos h]
  | cons c rest => rw [offsetOf?, if_pos h]

theorem offsetOf?_cons {needle rest : Chars} {c : Char}
    (h : needle.isPrefixOf (c :: rest) = false) :
    offsetOf? needle (c :: rest) = (offsetOf? needle rest).map (· + 1) := by
  rw [offsetOf?, h, if_neg Bool.false_ne_true]

/-- **White space parts a search** for the first offset of a solid text. -/
theorem offsetOf?_append_space {needle : Chars} (hneedle : Solid needle) {c : Char}
    (hc : isSpace c = true) (left right : Chars) :
    offsetOf? needle (left ++ c :: right)
      = (offsetOf? needle left).or ((offsetOf? needle right).map (left.length + 1 + ·)) := by
  induction left with
  | nil =>
    rw [List.nil_append, offsetOf?_cons (isPrefixOf_cons_space hneedle hc right),
      offsetOf?_nil hneedle, Option.none_or]
    refine congrArg (Option.map · _) (funext fun n => ?_)
    rw [List.length_nil]
    omega
  | cons b left ih =>
    have hfront := isPrefixOf_append_space hneedle.2 hc (b :: left) right
    by_cases h : needle.isPrefixOf (b :: left) = true
    · rw [offsetOf?_of_isPrefixOf (hfront.trans h), offsetOf?_of_isPrefixOf h, Option.some_or]
    · have h : needle.isPrefixOf (b :: left) = false := Bool.eq_false_iff.mpr h
      rw [List.cons_append] at hfront ⊢
      rw [offsetOf?_cons (hfront.trans h), offsetOf?_cons h, ih, Option.map_or,
        Option.map_map]
      refine congrArg (fun f => Option.or _ (Option.map f _)) (funext fun n => ?_)
      rw [Function.comp_apply, List.length_cons]
      omega

/-- White space at the front is passed over by a search. -/
theorem offsetOf?_space_append {needle : Chars} (hneedle : Solid needle) {blank : Chars}
    (hblank : ∀ c ∈ blank, isSpace c = true) (text : Chars) :
    offsetOf? needle (blank ++ text) = (offsetOf? needle text).map (blank.length + ·) := by
  induction blank with
  | nil =>
    rw [List.nil_append]
    simp only [List.length_nil, Nat.zero_add, Option.map_id_fun', id_eq]
  | cons c blank ih =>
    have hc := hblank c List.mem_cons_self
    rw [List.cons_append, offsetOf?_cons (isPrefixOf_cons_space hneedle hc _),
      ih fun d hd => hblank d (List.mem_cons_of_mem _ hd), Option.map_map]
    refine congrArg (Option.map · _) (funext fun n => ?_)
    rw [Function.comp_apply, List.length_cons]
    omega

/-! ## A text without the blanks at its ends -/

/-- **Trimming undone**: a text is what is left of it when its end is trimmed, and then characters
of the class; what is left does not end in one. -/
theorem exists_trimEnd (p : Char → Bool) (text : Chars) :
    ∃ tail, text = trimEnd p text ++ tail ∧ (∀ c ∈ tail, p c = true)
      ∧ ∀ c ∈ (trimEnd p text).getLast?, p c = false := by
  refine ⟨text.rtakeWhile p, ?_, fun c hc => List.mem_rtakeWhile_imp hc, fun c hc => ?_⟩
  · exact List.rdropWhile_append_rtakeWhile.symm
  · obtain ⟨hne, rfl⟩ := List.mem_getLast?_eq_getLast hc
    exact Bool.eq_false_iff.mpr (List.rdropWhile_last_not p text hne)

/-- Trimming takes exactly the characters of the class at the end. -/
theorem trimEnd_append {p : Char → Bool} {text tail : Chars}
    (htext : ∀ c ∈ text.getLast?, p c = false) (htail : ∀ c ∈ tail, p c = true) :
    trimEnd p (text ++ tail) = text := by
  show (text ++ tail).rdropWhile p = text
  induction tail using List.reverseRecOn with
  | nil =>
    rw [List.append_nil, List.rdropWhile_eq_self_iff]
    exact fun hne => Bool.eq_false_iff.mp (htext _ (List.getLast?_eq_some_getLast hne))
  | append_singleton tail c ih =>
    rw [← List.append_assoc, List.rdropWhile_concat_pos _ _ _ (htail c (by simp))]
    exact ih fun d hd => htail d (List.mem_append_left _ hd)

/-- **Trimming undone**, at both ends. -/
theorem exists_trim (p : Char → Bool) (text : Chars) :
    ∃ before after, text = before ++ trim p text ++ after ∧ (∀ c ∈ before, p c = true)
      ∧ ∀ c ∈ after, p c = true := by
  obtain ⟨after, hafter, hblank, -⟩ := exists_trimEnd p (text.dropWhile p)
  refine ⟨text.takeWhile p, after, ?_, fun c hc => List.mem_takeWhile_imp hc, hblank⟩
  rw [List.append_assoc, trim, ← hafter, List.takeWhile_append_dropWhile]

/-- Trimming takes exactly the characters of the class at both ends. -/
theorem trim_append {p : Char → Bool} {before core after : Chars}
    (hbefore : ∀ c ∈ before, p c = true) (hcore : ∀ c ∈ core, p c = false) (hne : core ≠ [])
    (hafter : ∀ c ∈ after, p c = true) : trim p (before ++ core ++ after) = core := by
  obtain ⟨c, rest, rfl⟩ := List.exists_cons_of_ne_nil hne
  have hfront : (c :: rest ++ after).dropWhile p = c :: rest ++ after := by
    rw [List.cons_append, List.dropWhile_cons_of_neg]
    exact Bool.eq_false_iff.mp (hcore c List.mem_cons_self)
  rw [trim, List.append_assoc, List.dropWhile_append_of_pos hbefore, hfront]
  exact trimEnd_append (fun d hd => hcore d (List.mem_of_getLast? hd)) hafter

end Chars

/-! ## Free content -/

namespace Pattern

open Text

variable {closing close : Chars}

/-- The end of a tag stands at the front. -/
def closes (closing close text : Chars) : Bool :=
  close.isPrefixOf text || (closing ++ close).isPrefixOf text

theorem freeContent_nil (hclosing : ∀ c ∈ closing, isSpace c = false) (hclose : Solid close) :
    freeContent closing close [] = none := by
  rw [freeContent, hclose.isPrefixOf_nil, (Solid.append hclosing hclose).isPrefixOf_nil]
  rfl

theorem freeContent_of_closes {text : Chars} (h : closes closing close text = true) :
    freeContent closing close text = some [] := by
  unfold closes at h
  cases text with
  | nil => rw [freeContent, if_pos h]
  | cons c rest => rw [freeContent, if_pos h]

theorem freeContent_cons {rest : Chars} {c : Char} (h : closes closing close (c :: rest) = false) :
    freeContent closing close (c :: rest) = (freeContent closing close rest).map (c :: ·) := by
  unfold closes at h
  rw [freeContent, h, if_neg Bool.false_ne_true]

/-- Whether a tag ends at the front is settled before the first white space. -/
theorem closes_append_space (hclosing : ∀ c ∈ closing, isSpace c = false) (hclose : Solid close)
    {c : Char} (hc : isSpace c = true) (left right : Chars) :
    closes closing close (left ++ c :: right) = closes closing close left := by
  unfold closes
  rw [isPrefixOf_append_space hclose.2 hc,
    isPrefixOf_append_space (Solid.append hclosing hclose).2 hc]

theorem closes_cons_space (hclosing : ∀ c ∈ closing, isSpace c = false) (hclose : Solid close)
    {c : Char} (hc : isSpace c = true) (rest : Chars) :
    closes closing close (c :: rest) = false := by
  have h := closes_append_space hclosing hclose hc [] rest
  unfold closes at h ⊢
  rw [hclose.isPrefixOf_nil, (Solid.append hclosing hclose).isPrefixOf_nil] at h
  exact h

/-- **White space parts a search** for the end of a tag. -/
theorem freeContent_append_space (hclosing : ∀ c ∈ closing, isSpace c = false)
    (hclose : Solid close) {c : Char} (hc : isSpace c = true) (left right : Chars) :
    freeContent closing close (left ++ c :: right)
      = (freeContent closing close left).or
          ((freeContent closing close right).map (left ++ c :: ·)) := by
  induction left with
  | nil =>
    rw [List.nil_append, freeContent_cons (closes_cons_space hclosing hclose hc right),
      freeContent_nil hclosing hclose, Option.none_or]
    rfl
  | cons b left ih =>
    have hfront := closes_append_space hclosing hclose hc (b :: left) right
    by_cases h : closes closing close (b :: left) = true
    · rw [freeContent_of_closes (hfront.trans h), freeContent_of_closes h, Option.some_or]
    · have h : closes closing close (b :: left) = false := Bool.eq_false_iff.mpr h
      rw [List.cons_append] at hfront ⊢
      rw [freeContent_cons (hfront.trans h), freeContent_cons h, ih,
        Option.map_or, Option.map_map]
      rfl

/-- White space at the front is free content. -/
theorem freeContent_space_append (hclosing : ∀ c ∈ closing, isSpace c = false)
    (hclose : Solid close) {blank : Chars} (hblank : ∀ c ∈ blank, isSpace c = true) (text : Chars) :
    freeContent closing close (blank ++ text)
      = (freeContent closing close text).map (blank ++ ·) := by
  induction blank with
  | nil =>
    rw [List.nil_append]
    simp only [List.nil_append, Option.map_id_fun', id_eq]
  | cons c blank ih =>
    have hc := hblank c List.mem_cons_self
    rw [List.cons_append, freeContent_cons (closes_cons_space hclosing hclose hc _),
      ih fun d hd => hblank d (List.mem_cons_of_mem _ hd), Option.map_map]
    rfl

/-- After free content the end of the tag stands. -/
theorem closes_of_freeContent {text taken : Chars}
    (h : freeContent closing close text = some taken) :
    ∃ rest, text = taken ++ rest ∧ closes closing close rest = true := by
  induction text generalizing taken with
  | nil =>
    simp only [freeContent] at h
    split at h
    next hfront =>
      cases h
      exact ⟨[], rfl, hfront⟩
    · cases h
  | cons c text ih =>
    by_cases hfront : closes closing close (c :: text) = true
    · rw [freeContent_of_closes hfront] at h
      cases h
      exact ⟨c :: text, rfl, hfront⟩
    · rw [freeContent_cons (Bool.eq_false_iff.mpr hfront)] at h
      obtain ⟨tail, htail, rfl⟩ := Option.map_eq_some_iff.mp h
      obtain ⟨rest, rfl, hrest⟩ := ih htail
      exact ⟨rest, rfl, hrest⟩

/-! ## The end of a line -/

/-- What ends a line at the front of a text: a line feed, alone or behind a carriage return, or the
end of the text. -/
def lineEnd? : Chars → Option Chars
  | [] => some []
  | '\n' :: _ => some ['\n']
  | '\r' :: '\n' :: _ => some ['\r', '\n']
  | _ => none

theorem lineEnd?_lineFeed (rest : Chars) : lineEnd? ('\n' :: rest) = some ['\n'] := rfl

theorem lineEnd?_return_lineFeed (rest : Chars) :
    lineEnd? ('\r' :: '\n' :: rest) = some ['\r', '\n'] := rfl

theorem lineEnd?_return_of_ne {c : Char} (h : c ≠ '\n') (rest : Chars) :
    lineEnd? ('\r' :: c :: rest) = none := by
  unfold lineEnd?
  split <;> simp_all

theorem lineEnd?_of_ne {c : Char} (hlineFeed : c ≠ '\n') (hreturn : c ≠ '\r') (rest : Chars) :
    lineEnd? (c :: rest) = none := by
  unfold lineEnd?
  split <;> simp_all

/-- The blank end of a line is blanks and then what ends the line. -/
theorem endOfLine_match? (text : Chars) :
    Pattern.endOfLine.match? text
      = (lineEnd? (text.dropWhile isBlank)).map (text.takeWhile isBlank ++ ·) := by
  simp only [match?]
  generalize text.dropWhile isBlank = rest
  unfold lineEnd?
  split
  · rw [Option.map_some, List.append_nil]
  · rfl
  · rfl
  next hnil hlineFeed hreturn =>
    split
    · exact (hnil rfl).elim
    · exact (hlineFeed _ rfl).elim
    · exact (hreturn _ rfl).elim
    · rfl

/-- The blank end of a line holds no line feed but the last character. -/
theorem lineFeed_not_mem_dropLast {text ending : Chars}
    (h : Pattern.endOfLine.match? text = some ending) : '\n' ∉ ending.dropLast := by
  rw [endOfLine_match?, Option.map_eq_some_iff] at h
  obtain ⟨newline, hnewline, rfl⟩ := h
  have hblank : '\n' ∉ text.takeWhile isBlank := lineFeed_not_mem_takeWhile (by decide) text
  have hends : '\n' ∉ newline.dropLast := by
    unfold lineEnd? at hnewline
    split at hnewline <;> cases hnewline <;> decide
  by_cases hnil : newline = []
  · rw [hnil, List.append_nil]
    exact fun hmem => hblank ((List.dropLast_sublist _).mem hmem)
  · rw [List.dropLast_append_of_ne_nil hnil, List.mem_append, not_or]
    exact ⟨hblank, hends⟩

end Pattern

end Mustache
