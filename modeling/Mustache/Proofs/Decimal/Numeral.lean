import Mathlib.Data.Nat.Digits.Defs
import Mustache.Decimal.Integer
import Mustache.Proofs.Text.Solid

/-!
# The texts of an integer

An integer can be written in many ways: with blanks around it, with a sign or without, with the
digits of any script, with underscores between the digits and zeros before them. The grammar of these
texts is `Denotes`, and the reader of integers knows exactly the texts of the grammar
(`readInt?_eq_some_iff`); so no text denotes two integers (`Denotes.unique`).

One text of a number is the usual one, its decimal digits, which denotes it unless there are too many
(`denotes_ofNat`).
-/

namespace Mustache.Decimal

open Chars

/-! ## The grammar -/

/-- **Digits as they are written**: decimal digits of any script, and between two of them there may be
an underscore. -/
inductive Digits : Chars → List Nat → Prop
  | last {c : Char} {digit : Nat} (hdigit : Text.digitValue? c = some digit) : Digits [c] [digit]
  | next {c : Char} {digit : Nat} {text : Chars} {digits : List Nat}
      (hdigit : Text.digitValue? c = some digit) (h : Digits text digits) :
      Digits (c :: text) (digit :: digits)
  | underscore {c : Char} {digit : Nat} {text : Chars} {digits : List Nat}
      (hdigit : Text.digitValue? c = some digit) (h : Digits text digits) :
      Digits (c :: '_' :: text) (digit :: digits)

/-- **A sign**, as it is written, and what it makes of a number. -/
inductive Sign : Chars → Int → Prop
  | absent : Sign [] 1
  | plus : Sign ['+'] 1
  | minus : Sign ['-'] (-1)

/-- **A text denotes an integer**: blanks, a sign, digits, and blanks again. The digits may not be too
many. -/
inductive Denotes : Chars → Int → Prop
  | intro {before sign written after : Chars} {factor : Int} {digits : List Nat}
      (hbefore : ∀ c ∈ before, Text.padsNumber c = true) (hsign : Sign sign factor)
      (hdigits : Digits written digits) (hlimit : digits.length ≤ digitLimit)
      (hafter : ∀ c ∈ after, Text.padsNumber c = true) :
      Denotes (before ++ (sign ++ written) ++ after)
        (factor * (Nat.ofDigits 10 digits.reverse : Nat))

/-! ## Characters of numerals -/

/-- The blanks around a numeral, as ranges of code points. -/
def padRanges : Text.Ranges := (0x20, 0x20) :: (0x09, 0x0D) :: Text.spaceRanges

theorem exists_mem_padRanges {c : Char} (h : Text.padsNumber c = true) :
    ∃ range ∈ padRanges, range.1 ≤ c.toNat ∧ c.toNat ≤ range.2 := by
  unfold Text.padsNumber at h
  split at h
  · rw [Bool.or_eq_true, beq_iff_eq, Bool.and_eq_true, decide_eq_true_eq, decide_eq_true_eq] at h
    rcases h with rfl | hcontrol
    · exact ⟨(0x20, 0x20), List.mem_cons_self, by decide⟩
    · exact ⟨(0x09, 0x0D), List.mem_cons_of_mem _ List.mem_cons_self, hcontrol⟩
  · obtain ⟨range, hmem, hin⟩ := List.any_eq_true.mp h
    rw [Bool.and_eq_true, decide_eq_true_eq, decide_eq_true_eq] at hin
    exact ⟨range, List.mem_cons_of_mem _ (List.mem_cons_of_mem _ hmem), hin⟩

/-- A digit is no blank. -/
theorem padsNumber_of_digitValue? {c : Char} {digit : Nat} (h : Text.digitValue? c = some digit) :
    Text.padsNumber c = false := by
  obtain ⟨first, hfirst, -⟩ := Option.map_eq_some_iff.mp h
  have hfollows := List.find?_some hfirst
  rw [Bool.and_eq_true, decide_eq_true_eq, decide_eq_true_eq] at hfollows
  -- no blank is less than ten places behind a zero
  have hapart : Text.zeros.all (fun first => padRanges.all fun range =>
      first + 9 < range.1 || range.2 < first) = true := by decide
  refine Bool.eq_false_iff.mpr fun hpads => ?_
  obtain ⟨range, hmem, hin⟩ := exists_mem_padRanges hpads
  have hpair := List.all_eq_true.mp
    (List.all_eq_true.mp hapart first (List.mem_of_find?_eq_some hfirst)) range hmem
  rw [Bool.or_eq_true, decide_eq_true_eq, decide_eq_true_eq] at hpair
  omega

theorem digitValue?_underscore : Text.digitValue? '_' = none := by decide

theorem Digits.padsNumber {text : Chars} {digits : List Nat} (h : Digits text digits) :
    ∀ c ∈ text, Text.padsNumber c = false := by
  induction h with
  | last hdigit => simpa using padsNumber_of_digitValue? hdigit
  | next hdigit _ ih =>
    rw [List.forall_mem_cons]
    exact ⟨padsNumber_of_digitValue? hdigit, ih⟩
  | underscore hdigit _ ih =>
    rw [List.forall_mem_cons, List.forall_mem_cons]
    exact ⟨padsNumber_of_digitValue? hdigit, by decide, ih⟩

theorem Sign.padsNumber {sign : Chars} {factor : Int} (h : Sign sign factor) :
    ∀ c ∈ sign, Text.padsNumber c = false := by
  cases h with
  | absent => simp
  | plus | minus =>
    rw [List.forall_mem_singleton]
    decide

/-! ## Reading digits -/

/-- What follows a digit: nothing, more digits, or an underscore and more digits. -/
def Digits.Follow (text : Chars) (digits : List Nat) : Prop :=
  text = [] ∧ digits = [] ∨ Digits text digits ∨ ∃ rest, text = '_' :: rest ∧ Digits rest digits

theorem digits_cons_iff {c : Char} {text : Chars} {digits : List Nat} :
    Digits (c :: text) digits ↔ ∃ digit rest, Text.digitValue? c = some digit
      ∧ digits = digit :: rest ∧ Digits.Follow text rest := by
  constructor
  · intro h
    cases h with
    | last hdigit => exact ⟨_, _, hdigit, rfl, .inl ⟨rfl, rfl⟩⟩
    | next hdigit h => exact ⟨_, _, hdigit, rfl, .inr (.inl h)⟩
    | underscore hdigit h => exact ⟨_, _, hdigit, rfl, .inr (.inr ⟨_, rfl, h⟩)⟩
  · rintro ⟨digit, rest, hdigit, rfl, ⟨rfl, rfl⟩ | h | ⟨text, rfl, h⟩⟩
    · exact .last hdigit
    · exact .next hdigit h
    · exact .underscore hdigit h

theorem not_digits_nil {digits : List Nat} : ¬ Digits [] digits := by
  intro h
  cases h

/-- **The reader of digits** reads those of the grammar, at the beginning and behind a digit. -/
theorem readDigits?_eq_some_iff_both (text : Chars) (digits : List Nat) :
    (readDigits? false text = some digits ↔ Digits text digits)
      ∧ (readDigits? true text = some digits ↔ Digits.Follow text digits) := by
  induction text generalizing digits with
  | nil => simp [readDigits?, Digits.Follow, not_digits_nil, eq_comm]
  | cons c text ih =>
    by_cases hunderscore : c = '_'
    · subst hunderscore
      have hnone : ¬ Digits ('_' :: text) digits := by
        rw [digits_cons_iff, digitValue?_underscore]
        simp
      simp [readDigits?, Digits.Follow, hnone, (ih digits).1]
    · have hboth : ∀ afterDigit, readDigits? afterDigit (c :: text) = some digits
          ↔ Digits (c :: text) digits := by
        intro afterDigit
        rw [readDigits?, if_neg hunderscore, digits_cons_iff]
        cases Text.digitValue? c with
        | none => simp
        | some digit =>
          show (readDigits? true text).map (digit :: ·) = some digits ↔ _
          rw [Option.map_eq_some_iff]
          constructor
          · rintro ⟨rest, hrest, rfl⟩
            exact ⟨digit, rest, rfl, rfl, (ih rest).2.mp hrest⟩
          · rintro ⟨other, rest, hother, rfl, h⟩
            cases hother
            exact ⟨rest, (ih rest).2.mpr h, rfl⟩
      refine ⟨hboth false, (hboth true).trans ?_⟩
      simp [Digits.Follow, hunderscore]

theorem readDigits?_eq_some_iff {text : Chars} {digits : List Nat} :
    readDigits? false text = some digits ↔ Digits text digits :=
  (readDigits?_eq_some_iff_both text digits).1

/-- The number of the digits is the one they have in base ten. -/
theorem ofDigits_eq (digits : List Nat) : ofDigits digits = Nat.ofDigits 10 digits.reverse := by
  rw [Nat.ofDigits_eq_foldr, List.foldr_reverse, ofDigits]
  simp only [Nat.cast_id, Nat.add_comm]

/-- **A numeral without sign** is read as the number of its digits. -/
theorem readNat?_eq_some_iff {text : Chars} {n : Nat} :
    readNat? text = some n ↔ ∃ digits, Digits text digits ∧ digits.length ≤ digitLimit
      ∧ n = Nat.ofDigits 10 digits.reverse := by
  rw [readNat?, Option.bind_eq_some_iff]
  refine exists_congr fun digits => and_congr readDigits?_eq_some_iff ?_
  rw [Option.ite_none_right_eq_some, ofDigits_eq, Option.some.injEq, eq_comm]

/-! ## Reading integers -/

/-- A number that is read and then given a sign is multiplied by what the sign makes of it. -/
theorem map_signed {signed : Int → Int} {factor : Int} (h : ∀ n, signed n = factor * n)
    (read : Option Nat) :
    Option.map signed (read >>= fun n => pure (n : Int))
      = read.map fun n : Nat => factor * (n : Int) := by
  cases read with
  | none => rfl
  | some n => exact congrArg some (h n)

/-- A text within its blanks is a sign, or none, and what is read without a sign. -/
theorem readInt?_cases (text : Chars) :
    ∃ sign written factor, trim Text.padsNumber text = sign ++ written ∧ Sign sign factor
      ∧ readInt? text = (readNat? written).map fun m : Nat => factor * (m : Int) := by
  unfold readInt?
  split
  next rest hrest =>
    exact ⟨['-'], rest, -1, hrest, .minus, map_signed (by omega) _⟩
  next rest hrest =>
    exact ⟨['+'], rest, 1, hrest, .plus, map_signed (by omega) _⟩
  · exact ⟨[], _, 1, rfl, .absent, map_signed (by omega) _⟩

/-- What is a sign, or none, and digits within its blanks is read as the number of the digits with the
sign. -/
theorem readInt?_of_trim {text sign written : Chars} {factor : Int} {digits : List Nat}
    (htrim : trim Text.padsNumber text = sign ++ written) (hsign : Sign sign factor)
    (hdigits : Digits written digits) :
    readInt? text = (readNat? written).map fun m : Nat => factor * (m : Int) := by
  unfold readInt?
  rw [htrim]
  cases hsign with
  | absent =>
    -- the first digit is not taken for a sign
    have hhead : ∀ c rest, written = c :: rest → Text.digitValue? c ≠ none := by
      rintro c rest rfl hnone
      obtain ⟨digit, -, hdigit, -⟩ := digits_cons_iff.mp hdigits
      rw [hnone] at hdigit
      cases hdigit
    rw [List.nil_append]
    split
    · exact absurd (by decide) (hhead _ _ rfl)
    · exact absurd (by decide) (hhead _ _ rfl)
    · exact map_signed (by omega) _
  | plus => exact map_signed (by omega) _
  | minus => exact map_signed (by omega) _

/-- **The reader of integers knows the texts of the grammar**, and no others. -/
theorem readInt?_eq_some_iff {text : Chars} {n : Int} : readInt? text = some n ↔ Denotes text n := by
  constructor
  · intro h
    obtain ⟨before, after, htext, hbefore, hafter⟩ := exists_trim Text.padsNumber text
    obtain ⟨sign, written, factor, htrim, hsign, hread⟩ := readInt?_cases text
    rw [hread] at h
    obtain ⟨m, hm, rfl⟩ := Option.map_eq_some_iff.mp h
    obtain ⟨digits, hdigits, hlimit, rfl⟩ := readNat?_eq_some_iff.mp hm
    rw [htext, htrim]
    exact .intro hbefore hsign hdigits hlimit hafter
  · intro h
    cases h with
    | @intro before sign written after factor digits hbefore hsign hdigits hlimit hafter =>
      have hcore : ∀ c ∈ sign ++ written, Text.padsNumber c = false := by
        intro c hc
        rcases List.mem_append.mp hc with hc | hc
        · exact hsign.padsNumber c hc
        · exact hdigits.padsNumber c hc
      have hne : sign ++ written ≠ [] := by
        intro hnil
        rw [(List.append_eq_nil_iff.mp hnil).2] at hdigits
        exact not_digits_nil hdigits
      rw [readInt?_of_trim (trim_append hbefore hcore hne hafter) hsign hdigits,
        readNat?_eq_some_iff.mpr ⟨digits, hdigits, hlimit, rfl⟩]
      rfl

/-- No text denotes two integers. -/
theorem Denotes.unique {text : Chars} {m n : Int} (hm : Denotes text m) (hn : Denotes text n) :
    m = n := by
  rw [← readInt?_eq_some_iff] at hm hn
  rwa [hm, Option.some.injEq] at hn

/-! ## The usual text of a number -/

theorem digitValue?_digitChar {digit : Nat} (h : digit < 10) :
    Text.digitValue? digit.digitChar = some digit := by
  have hall : ∀ digit < 10, Text.digitValue? digit.digitChar = some digit := by decide
  exact hall digit h

/-- One more digit at the end. -/
theorem Digits.concat {text : Chars} {digits : List Nat} (h : Digits text digits) {c : Char}
    {digit : Nat} (hdigit : Text.digitValue? c = some digit) :
    Digits (text ++ [c]) (digits ++ [digit]) := by
  induction h with
  | last hfirst => exact .next hfirst (.last hdigit)
  | next hfirst _ ih => exact .next hfirst ih
  | underscore hfirst _ ih => exact .underscore hfirst ih

/-- The decimal digits of a number are digits as they are written, and those of the number. -/
theorem exists_digits_ofNat (n : Nat) :
    ∃ digits, Digits (Chars.ofNat n) digits ∧ digits.length = (Chars.ofNat n).length
      ∧ Nat.ofDigits 10 digits.reverse = n := by
  induction n using Nat.strongRecOn with
  | ind n ih =>
    unfold Chars.ofNat
    rw [Nat.toDigits_eq_if (by decide)]
    by_cases hsmall : n < 10
    · rw [if_pos hsmall]
      exact ⟨[n], .last (digitValue?_digitChar hsmall), rfl, Nat.ofDigits_singleton⟩
    · obtain ⟨digits, hdigits, hlength, hvalue⟩ := ih (n / 10) (by omega)
      have hlast := digitValue?_digitChar (Nat.mod_lt n (by decide : 0 < 10))
      rw [if_neg hsmall]
      refine ⟨digits ++ [n % 10], hdigits.concat hlast, ?_, ?_⟩
      · rw [List.length_append, List.length_append, hlength]
        rfl
      · rw [List.reverse_append, List.reverse_singleton, List.singleton_append, Nat.ofDigits_cons,
          hvalue]
        exact Nat.mod_add_div n 10

/-- **The decimal digits of a number denote it**, unless they are too many. -/
theorem denotes_ofNat {n : Nat} (h : (Chars.ofNat n).length ≤ digitLimit) :
    Denotes (Chars.ofNat n) n := by
  obtain ⟨digits, hdigits, hlength, hvalue⟩ := exists_digits_ofNat n
  have hdenotes : Denotes ([] ++ ([] ++ Chars.ofNat n) ++ [])
      (1 * (Nat.ofDigits 10 digits.reverse : Nat)) :=
    .intro (by simp) .absent hdigits (hlength ▸ h) (by simp)
  rwa [List.nil_append, List.nil_append, List.append_nil, Int.one_mul, hvalue] at hdenotes

end Mustache.Decimal
