import Mustache.Position
import Mustache.Proofs.Text.Layout

/-!
# Places in a text

Three things can be said of a place in a text without saying how it was looked for. It is **the
first place**, from some offset on, at which another text stands (`FirstFrom`). It stands in a line,
and what is in front of it there is **the last line** of the text before it (`lastLine`): the column
counts it, as the line counts the line feeds (`Position.ofOffset_eq`). And behind it the line may
end in blanks alone (`BlankEnd`).

Each is what a search of the lexer finds: `offsetOf?_eq_some_iff` and `offsetOf?_eq_none_iff` for the
first place, `lastLine_eq_nil_iff` for the beginning of a line, `endOfLine_eq_some_iff` for its blank
end.
-/

namespace Mustache

open Text

namespace Chars

/-! ## The first place of a text -/

/-- **The first place at which `needle` stands**, from an offset on. -/
structure FirstFrom (needle text : Chars) (start place : Nat) : Prop where
  le : start ≤ place
  stands : needle <+: text.drop place
  first : ∀ n, start ≤ n → n < place → ¬ needle <+: text.drop n

variable {needle text : Chars}

/-- A property of zero holds of no other number for the first time. -/
private theorem zero_eq_iff_first {P : Nat → Prop} (hzero : P 0) {n : Nat} :
    0 = n ↔ P n ∧ ∀ m < n, ¬ P m := by
  constructor
  · rintro rfl
    exact ⟨hzero, fun m hm => absurd hm (Nat.not_lt_zero m)⟩
  · rintro ⟨-, hfirst⟩
    by_contra hne
    exact hfirst 0 (by omega) hzero

/-- **What is found is the first place** at which the needle stands. -/
theorem offsetOf?_eq_some_iff {n : Nat} :
    offsetOf? needle text = some n
      ↔ needle <+: text.drop n ∧ ∀ m < n, ¬ needle <+: text.drop m := by
  induction text generalizing n with
  | nil =>
    simp only [offsetOf?, List.isPrefixOf_iff_prefix, List.drop_nil]
    by_cases hfront : needle <+: []
    · rw [if_pos hfront, Option.some.injEq]
      exact zero_eq_iff_first (P := fun _ => needle <+: []) hfront
    · rw [if_neg hfront]
      constructor
      · intro hfound
        cases hfound
      · intro h
        exact absurd h.1 hfront
  | cons c rest ih =>
    simp only [offsetOf?, List.isPrefixOf_iff_prefix]
    by_cases hfront : needle <+: c :: rest
    · rw [if_pos hfront, Option.some.injEq]
      exact zero_eq_iff_first (P := fun m => needle <+: (c :: rest).drop m) hfront
    · rw [if_neg hfront, Option.map_eq_some_iff]
      constructor
      · rintro ⟨m, hm, rfl⟩
        obtain ⟨hstands, hfirst⟩ := ih.mp hm
        refine ⟨hstands, fun k hk => ?_⟩
        cases k with
        | zero => exact hfront
        | succ k => exact hfirst k (by omega)
      · rintro ⟨hstands, hfirst⟩
        cases n with
        | zero => exact absurd hstands hfront
        | succ n => exact ⟨n, ih.mpr ⟨hstands, fun m hm => hfirst (m + 1) (by omega)⟩, rfl⟩

/-- **Nothing is found where the needle stands nowhere.** -/
theorem offsetOf?_eq_none_iff : offsetOf? needle text = none ↔ ∀ n, ¬ needle <+: text.drop n := by
  constructor
  · intro hnone n
    -- a place would make a first place
    induction n using Nat.strong_induction_on with
    | _ n ih =>
      intro hstands
      rw [offsetOf?_eq_some_iff.mpr ⟨hstands, ih⟩] at hnone
      cases hnone
  · intro hnowhere
    cases h : offsetOf? needle text with
    | none => rfl
    | some n => exact absurd (offsetOf?_eq_some_iff.mp h).1 (hnowhere n)

/-- **What is found is found first** whatever comes behind the text. -/
theorem offsetOf?_append {n : Nat} (h : offsetOf? needle text = some n) (tail : Chars) :
    offsetOf? needle (text ++ tail) = some n := by
  obtain ⟨hstands, hfirst⟩ := offsetOf?_eq_some_iff.mp h
  have hn : n ≤ text.length := (offsetOf?_eq_some h).1
  have hlength := hstands.length_le
  rw [List.length_drop] at hlength
  refine offsetOf?_eq_some_iff.mpr ⟨?_, fun m hm hother => hfirst m hm ?_⟩
  · rw [List.drop_append_of_le_length hn]
    exact hstands.trans (List.prefix_append _ tail)
  · rw [List.drop_append_of_le_length (by omega)] at hother
    refine List.prefix_of_prefix_length_le hother (List.prefix_append _ tail) ?_
    rw [List.length_drop]
    omega

/-- What is found behind the front of a text is found without the front. -/
theorem offsetOf?_of_append {front : Chars} {n : Nat}
    (h : offsetOf? needle (front ++ text) = some (front.length + n)) :
    offsetOf? needle text = some n := by
  have hdrop (m : Nat) : (front ++ text).drop (front.length + m) = text.drop m := by
    rw [← List.drop_drop, List.drop_left]
  obtain ⟨hstands, hfirst⟩ := offsetOf?_eq_some_iff.mp h
  rw [hdrop] at hstands
  refine offsetOf?_eq_some_iff.mpr ⟨hstands, fun m hm hother => ?_⟩
  exact hfirst (front.length + m) (by omega) ((hdrop m).symm ▸ hother)

/-- What is found behind an offset is the first place from there on. -/
theorem firstFrom_of_offsetOf? {start n : Nat} (h : offsetOf? needle (text.drop start) = some n) :
    FirstFrom needle text start (start + n) := by
  obtain ⟨hstands, hfirst⟩ := offsetOf?_eq_some_iff.mp h
  refine ⟨Nat.le_add_right start n, ?_, fun m hm hlt hother => hfirst (m - start) (by omega) ?_⟩
  · rwa [List.drop_drop] at hstands
  · rwa [List.drop_drop, Nat.add_sub_cancel' hm]

/-- What is found in a text is the first place from its beginning on. -/
theorem firstFrom_zero_iff {n : Nat} :
    FirstFrom needle text 0 n ↔ offsetOf? needle text = some n := by
  rw [offsetOf?_eq_some_iff]
  constructor
  · intro h
    exact ⟨h.stands, fun m hm => h.first m (Nat.zero_le m) hm⟩
  · rintro ⟨hstands, hfirst⟩
    exact ⟨Nat.zero_le n, hstands, fun m _ hm => hfirst m hm⟩

/-- What is not found behind an offset stands nowhere from there on. -/
theorem not_isPrefix_of_offsetOf? {start : Nat} (h : offsetOf? needle (text.drop start) = none) :
    ∀ n, start ≤ n → ¬ needle <+: text.drop n := by
  intro n hn hstands
  refine offsetOf?_eq_none_iff.mp h (n - start) ?_
  rwa [List.drop_drop, Nat.add_sub_cancel' hn]

/-! ## The line that a text ends in -/

/-- **The last line of a text**: what stands behind its last line feed. -/
def lastLine (text : Chars) : Chars := text.rtakeWhile (· ≠ '\n')

theorem lastLine_concat (text : Chars) (c : Char) :
    lastLine (text ++ [c]) = if c = '\n' then [] else lastLine text ++ [c] := by
  unfold lastLine
  rw [List.rtakeWhile_concat]
  by_cases hc : c = '\n' <;> simp [hc]

/-- What holds no line feed goes on in the last line. -/
theorem lastLine_append_of_not_mem {right : Chars} (hright : '\n' ∉ right) (left : Chars) :
    lastLine (left ++ right) = lastLine left ++ right := by
  induction right using List.reverseRecOn with
  | nil => simp
  | append_singleton right c ih =>
    rw [List.mem_append, not_or, List.mem_singleton] at hright
    rw [← List.append_assoc, lastLine_concat, if_neg (Ne.symm hright.2), ih hright.1,
      List.append_assoc]

/-- **A line begins after a text** when the last line of the text is empty. -/
theorem lastLine_eq_nil_iff (text : Chars) :
    lastLine text = [] ↔ lineStartAfter true text = true := by
  induction text using List.reverseRecOn with
  | nil => simp [lastLine]
  | append_singleton text c _ =>
    rw [lastLine_concat, lineStartAfter_concat]
    by_cases hc : c = '\n' <;> simp [hc]

/-- **The text shows where it stands in its line**: when its last line holds nothing but blanks, it
holds nothing, and a line begins. -/
def ShowsLine (text : Chars) : Prop :=
  (∀ c ∈ lastLine text, isBlank c = true) → lineStartAfter true text = true

/-- A text that does not end in a blank shows where it stands in its line. -/
theorem showsLine_of_getLast? (h : ∀ c ∈ text.getLast?, isBlank c = false) : ShowsLine text := by
  induction text using List.reverseRecOn with
  | nil => exact fun _ => rfl
  | append_singleton text c _ =>
    intro hblank
    rw [lastLine_concat] at hblank
    rw [lineStartAfter_concat, beq_iff_eq]
    by_contra hc
    rw [if_neg hc] at hblank
    have hlast := h c (by simp)
    rw [hblank c (by simp)] at hlast
    cases hlast

/-- **In front of a place behind blanks there are only blanks** in its line just when the line
begins where the blanks do. -/
theorem lastLine_blank_iff {blank : Chars} (htext : ShowsLine text)
    (hblank : ∀ c ∈ blank, isBlank c = true) :
    (∀ c ∈ lastLine (text ++ blank), isBlank c = true) ↔ lineStartAfter true text = true := by
  rw [lastLine_append_of_not_mem (lineFeed_not_mem_blank hblank)]
  constructor
  · intro h
    exact htext fun c hc => h c (List.mem_append_left _ hc)
  · intro h c hc
    rw [(lastLine_eq_nil_iff text).mpr h, List.nil_append] at hc
    exact hblank c hc

/-! ## The blank end of a line -/

/-- **A line that ends in blanks**: at the front of the text stand tabs and spaces, and then a line
feed, alone or after a carriage return, or the text ends. The end of the line is all of this. -/
inductive BlankEnd : Chars → Chars → Prop
  | lineFeed {blank : Chars} (rest : Chars) (hblank : ∀ c ∈ blank, isBlank c = true) :
      BlankEnd (blank ++ '\n' :: rest) (blank ++ ['\n'])
  | returnLineFeed {blank : Chars} (rest : Chars) (hblank : ∀ c ∈ blank, isBlank c = true) :
      BlankEnd (blank ++ '\r' :: '\n' :: rest) (blank ++ ['\r', '\n'])
  | textEnd {blank : Chars} (hblank : ∀ c ∈ blank, isBlank c = true) : BlankEnd blank blank

/-- Blanks in front of something else are all the blanks at the front. -/
theorem takeWhile_blank {blank rest : Chars} (hblank : ∀ c ∈ blank, isBlank c = true)
    (hrest : ∀ c ∈ rest.head?, isBlank c = false) :
    (blank ++ rest).takeWhile isBlank = blank ∧ (blank ++ rest).dropWhile isBlank = rest := by
  rw [List.takeWhile_append_of_pos hblank, List.dropWhile_append_of_pos hblank]
  cases rest with
  | nil => simp
  | cons c rest =>
    have hc := hrest c rfl
    simp [hc]

end Chars

open Chars

/-- **Line and column of an offset**: one more than the line feeds before it, and one more than what
stands before it in its line. -/
theorem Position.ofOffset_eq {source : Chars} {offset : Nat} (h : offset ≤ source.length) :
    Position.ofOffset source offset = ⟨(source.take offset).count '\n' + 1,
      ((lastLine (source.take offset)).length + 1 : Nat)⟩ := by
  have hlength : (source.take offset).length = offset := by
    rw [List.length_take]
    omega
  have hline : (lastLine (source.take offset)).length
      = ((source.take offset).reverse.takeWhile (· ≠ '\n')).length := by
    rw [lastLine, List.rtakeWhile, List.length_reverse]
  have hle : (lastLine (source.take offset)).length ≤ offset := calc
    _ = _ := hline
    _ ≤ (source.take offset).reverse.length := (List.takeWhile_sublist _).length_le
    _ = offset := by rw [List.length_reverse, hlength]
  show Position.mk _ ((offset : Int) - (lastLineStart (source.take offset) : Nat) + 1) = _
  rw [lastLineStart, ← hline, hlength]
  congr 1
  omega

/-- **The pattern of the blank end of a line** takes just that. -/
theorem Pattern.endOfLine_eq_some_iff {text ending : Chars} :
    Pattern.endOfLine.match? text = some ending ↔ BlankEnd text ending := by
  rw [endOfLine_match?]
  constructor
  · intro h
    obtain ⟨newline, hnewline, rfl⟩ := Option.map_eq_some_iff.mp h
    have hblank : ∀ c ∈ text.takeWhile isBlank, isBlank c = true :=
      fun c hc => List.mem_takeWhile_imp hc
    have hsplit : text.takeWhile isBlank ++ text.dropWhile isBlank = text :=
      List.takeWhile_append_dropWhile
    generalize text.takeWhile isBlank = blank at hblank hsplit
    generalize text.dropWhile isBlank = rest at hnewline hsplit
    subst hsplit
    unfold lineEnd? at hnewline
    split at hnewline <;> cases hnewline
    · simpa using BlankEnd.textEnd hblank
    · exact .lineFeed _ hblank
    · exact .returnLineFeed _ hblank
  · intro h
    cases h with
    | @lineFeed blank rest hblank =>
      have hfront : ∀ c ∈ ('\n' :: rest).head?, isBlank c = false := by
        rintro c ⟨rfl⟩
        decide
      obtain ⟨htake, hdrop⟩ := takeWhile_blank hblank hfront
      rw [htake, hdrop]
      rfl
    | @returnLineFeed blank rest hblank =>
      have hfront : ∀ c ∈ ('\r' :: '\n' :: rest).head?, isBlank c = false := by
        rintro c ⟨rfl⟩
        decide
      obtain ⟨htake, hdrop⟩ := takeWhile_blank hblank hfront
      rw [htake, hdrop]
      rfl
    | textEnd hblank =>
      have hfront : ∀ c ∈ ([] : Chars).head?, isBlank c = false := nofun
      obtain ⟨htake, hdrop⟩ := takeWhile_blank hblank hfront
      rw [List.append_nil] at htake hdrop
      rw [htake, hdrop]
      simp [lineEnd?]

end Mustache
