import Mustache.Proofs.Decimal.Numeral
import Mustache.Proofs.Value.Membership

/-!
# Members of a sequence

The members of a sequence are its elements, and their names are the texts of their indices. What
comes of a name is one of three things (`Indexed`): it denotes an index of the sequence, and the
element there, wrapped, is the member; it denotes none, and there is no member; or the sequence is a
progression that is too long to be asked for its size, and it fails when the name denotes an integer
of at least zero. That every sequence is asked so (`indexed`) is shown once, for each kind of
sequence.

So the names of a sequence are exactly the texts of the indices below its length, in all their
spellings (`member_iff_index`): two texts of one integer name the same element, and a text of a
negative integer names none, though one might expect it to count from the end.
-/

namespace Mustache

namespace Value

open Decimal

/-- **The elements of a sequence**, as the host holds them. -/
def elements : Value → List Value
  | .list items | .tuple items => items
  | .range progression => progression.toList.map ofInt
  | .reflected value => value.elements
  | _ => []

/-- **What comes of a name in a sequence**: whether there is such a member, and the member, which is
an element, wrapped. -/
inductive Indexed (value : Value) (name : Chars) : Except Fault Bool → Except Fault Value → Prop
  | found {index : Nat} {item : Value} (hitem : value.elements[index]? = some item)
      (hname : Denotes name index) : Indexed value name (.ok true) item.reflect
  | missing (hname : ∀ index < value.elements.length, ¬ Denotes name (index : Nat)) :
      Indexed value name (.ok false) (.error (.noMember name))
  | tooLong (h : value.CannotTellIndex name) :
      Indexed value name (.error .tooLong) (.error .tooLong)

variable {value : Value} {name : Chars}

/-! ## Indices -/

/-- A name that denotes an index below the size is that index, and any other is none. -/
theorem indexOf?_ok_cases (name : Chars) (n : Nat) :
    (∃ index < n, Denotes name (index : Nat) ∧ indexOf? name (.ok n) = .ok (some index))
      ∨ (∀ index < n, ¬ Denotes name (index : Nat)) ∧ indexOf? name (.ok n) = .ok none := by
  unfold indexOf?
  cases hread : readInt? name with
  | none =>
    refine .inr ⟨fun index _ hname => ?_, rfl⟩
    rw [readInt?_eq_some_iff.mpr hname] at hread
    cases hread
  | some integer =>
    have hname := readInt?_eq_some_iff.mp hread
    by_cases hin : 0 ≤ integer ∧ integer < n
    · have hcast : (integer.toNat : Int) = integer := Int.toNat_of_nonneg hin.1
      refine .inl ⟨integer.toNat, by omega, hcast.symm ▸ hname, ?_⟩
      show (if integer < 0 then .ok none
        else .ok (if integer < n then some integer.toNat else none) : Except Fault _) = _
      rw [if_neg (by omega), if_pos hin.2]
    · refine .inr ⟨fun index hindex hother => ?_, ?_⟩
      · have := hname.unique hother
        omega
      · show (if integer < 0 then .ok none
          else .ok (if integer < n then some integer.toNat else none) : Except Fault _) = _
        split
        · rfl
        · rw [if_neg (by omega)]

/-! ## Each kind of sequence -/

/-- A list, or a tuple, is asked for the item of an index. -/
theorem indexed_items (name : Chars) {items : List Value} (hitems : value.elements = items) :
    value.Indexed name ((indexOf? name (.ok items.length)).map (·.isSome)) (do
      match (← indexOf? name (.ok items.length)).bind (items[·]?) with
      | some item => item.reflect
      | none => .error (.noMember name)) := by
  obtain ⟨index, hindex, hname, hfound⟩ | ⟨hnone, hmissing⟩ := indexOf?_ok_cases name items.length
  · have hitem : items[index]? = some items[index] := List.getElem?_eq_getElem hindex
    rw [hfound]
    show value.Indexed name (.ok true)
      (match items[index]? with
        | some item => item.reflect
        | none => .error (.noMember name))
    rw [hitem]
    exact .found (by rw [hitems, hitem]) hname
  · rw [hmissing]
    refine .missing fun index hindex => hnone index ?_
    rwa [hitems] at hindex

theorem getElem?_elements_range (progression : Progression) {index : Nat}
    (h : index < progression.length) :
    (range progression).elements[index]? = some (.ofInt (progression.member index)) := by
  rw [elements, Progression.toList, List.getElem?_map, List.getElem?_map, List.getElem?_range h]
  rfl

theorem length_elements_range (progression : Progression) :
    (range progression).elements.length = progression.length := by
  rw [elements, Progression.toList, List.length_map, List.length_map, List.length_range]

/-- A progression is asked for its member of an index. -/
theorem indexed_range (name : Chars) (progression : Progression) :
    (range progression).Indexed name ((range progression).has name)
      ((range progression).lookup name) := by
  rw [has, lookup, Progression.size]
  by_cases hshort : progression.length ≤ Progression.sizeLimit
  · rw [if_pos hshort]
    obtain ⟨index, hindex, hname, hfound⟩ | ⟨hnone, hmissing⟩ :=
      indexOf?_ok_cases name progression.length
    · rw [hfound]
      exact .found (getElem?_elements_range progression hindex) hname
    · rw [hmissing]
      exact .missing fun index hindex => hnone index (length_elements_range progression ▸ hindex)
  · rw [if_neg hshort]
    have hlong : Progression.sizeLimit < progression.length := Nat.lt_of_not_le hshort
    -- the size is asked for only when the name denotes an integer of at least zero
    by_cases hindex : ∃ index, readInt? name = some index ∧ 0 ≤ index
    · have hfails : indexOf? name (.error .tooLong) = .error .tooLong :=
        indexOf?_eq_error_iff.mpr ⟨hindex, rfl⟩
      obtain ⟨index, hread, hleast⟩ := hindex
      rw [hfails]
      exact .tooLong ⟨progression, index, rfl, hread, hleast, hlong⟩
    · obtain hnone | ⟨n, _, hn, -⟩ | ⟨fault, -, hfails⟩ := indexOf?_cases name (.error .tooLong)
      · rw [hnone]
        refine .missing fun index _ hname => hindex ⟨index, ?_, Int.natCast_nonneg index⟩
        exact readInt?_eq_some_iff.mpr hname
      · cases hn
      · exact absurd (indexOf?_eq_error_iff.mp hfails).1 hindex

/-- **Every sequence is asked by index.** -/
theorem indexed (hsequence : value.variant = .sequence) (name : Chars) :
    value.Indexed name (value.has name) (value.lookup name) := by
  induction value using Value.lookup.induct name with
  | case1 items => exact indexed_items name rfl
  | case2 items => exact indexed_items name rfl
  | case3 progression => exact indexed_range name progression
  | case9 value ih =>
    rw [has, lookup]
    rw [variant] at hsequence
    have hasked := ih hsequence
    generalize value.has name = has, value.lookup name = member at hasked ⊢
    -- what is wrapped has the elements of what is inside
    cases hasked with
    | found hitem hname => exact .found hitem hname
    | missing hnone => exact .missing hnone
    | tooLong h => exact .tooLong h
  | _ => cases hsequence

/-! ## What is read off -/

theorem elements_bare (value : Value) : value.bare.elements = value.elements := by
  fun_induction Value.bare value with
  | case1 value ih => rw [ih, elements]
  | case2 => rfl

/-- A sequence is no mapping of the host's own. -/
theorem not_isHostMapping_of_sequence (hsequence : value.variant = .sequence) :
    ¬ value.IsHostMapping := by
  rintro ⟨host, holds, gives, hbare⟩
  have hvariant : value.bare.variant = value.variant := by
    fun_induction Value.bare value with
    | case1 value ih => exact ih hsequence hbare
    | case2 => rfl
  rw [hbare, hsequence] at hvariant
  cases hvariant

/-- A sequence that cannot tell an index is longer than any that is asked for its size. -/
theorem CannotTellIndex.length (h : value.CannotTellIndex name) :
    Progression.sizeLimit < value.elements.length := by
  obtain ⟨progression, -, hprogression, -, -, hlong⟩ := h
  rwa [← elements_bare, hprogression, length_elements_range]

/-- An index of a sequence that can be asked for its size is not too long a number. -/
theorem length_ofNat_le {index : Nat} (h : index < Progression.sizeLimit) :
    (Chars.ofNat index).length ≤ digitLimit := by
  have hdigits : index < 10 ^ 19 := h.trans (by norm_num [Progression.sizeLimit])
  exact (Nat.toDigits_length 10 index 19 (by decide) hdigits).trans (by decide)

/-- **A name that a sequence has** denotes an index, and gives the item there. -/
theorem exists_index_of_has (hsequence : value.variant = .sequence)
    (h : value.has name = .ok true) :
    ∃ index, ∃ hindex : index < value.elements.length, Denotes name (index : Nat)
      ∧ value.lookup name = value.elements[index].reflect := by
  have hasked := indexed hsequence name
  rw [h] at hasked
  generalize hhas : (.ok true : Except Fault Bool) = has, value.lookup name = member at hasked ⊢
  cases hasked with
  | @found index item hitem hname =>
    obtain ⟨hindex, rfl⟩ := List.getElem?_eq_some_iff.mp hitem
    exact ⟨index, hindex, hname, rfl⟩
  | missing | tooLong => cases hhas

/-- **A name that denotes an index** is one that the sequence has. -/
theorem has_of_denotes (hsequence : value.variant = .sequence)
    (hsize : value.elements.length ≤ Progression.sizeLimit) {index : Nat}
    (hindex : index < value.elements.length) (hname : Denotes name index) :
    value.has name = .ok true ∧ value.lookup name = value.elements[index].reflect := by
  have hasked := indexed hsequence name
  generalize value.has name = has, value.lookup name = member at hasked ⊢
  cases hasked with
  | @found other item hitem hother =>
    obtain rfl : index = other := Int.ofNat_inj.mp (hname.unique hother)
    obtain ⟨-, rfl⟩ := List.getElem?_eq_some_iff.mp hitem
    exact ⟨rfl, rfl⟩
  | missing hnone => exact absurd hname (hnone index hindex)
  | tooLong h =>
    have := h.length
    omega

/-- A name that denotes a negative integer is none of the sequence. -/
theorem has_of_negative (hsequence : value.variant = .sequence) {n : Int} (hname : Denotes name n)
    (hn : n < 0) : value.has name = .ok false ∧ value.lookup name = .error (.noMember name) := by
  have hasked := indexed hsequence name
  generalize value.has name = has, value.lookup name = member at hasked ⊢
  cases hasked with
  | found hitem hother =>
    have := hname.unique hother
    omega
  | missing => exact ⟨rfl, rfl⟩
  | tooLong h =>
    obtain ⟨-, index, -, hread, hleast, -⟩ := h
    have := hname.unique (readInt?_eq_some_iff.mp hread)
    omega

/-- Two texts of one integer are asked alike. -/
theorem has_congr (hsequence : value.variant = .sequence) {other : Chars} {n : Int}
    (hname : Denotes name n) (hother : Denotes other n) : value.has name = value.has other := by
  have hindex : ∀ size, indexOf? name size = indexOf? other size := by
    intro size
    unfold indexOf?
    rw [readInt?_eq_some_iff.mpr hname, readInt?_eq_some_iff.mpr hother]
  induction value using Value.lookup.induct name with
  | case1 | case2 | case3 => rw [has, has, hindex]
  | case9 value ih => exact ih hsequence
  | _ => cases hsequence

/-- **Two texts of one integer** name the same item. -/
theorem lookup_of_denotes {other : Chars} {n : Int} (hsequence : value.variant = .sequence)
    (hname : Denotes name n) (hother : Denotes other n) {member : Value}
    (h : value.lookup name = .ok member) : value.lookup other = .ok member := by
  have hhas := has_of_lookup (not_isHostMapping_of_sequence hsequence) h
  obtain ⟨index, hindex, hdenotes, hlookup⟩ := exists_index_of_has hsequence hhas
  rw [has_congr hsequence hname hother] at hhas
  obtain ⟨second, hsecond, hdenotes', hlookup'⟩ := exists_index_of_has hsequence hhas
  obtain rfl : index = second :=
    Int.ofNat_inj.mp ((hdenotes.unique hname).trans (hother.unique hdenotes'))
  rw [hlookup', ← hlookup, h]

/-- **The members of a sequence are its elements, named by index.** Every index of a sequence that
can tell its size is denoted by its decimal digits, and whatever denotes it names the element there.
Whatever name a sequence has, long or not, denotes an index below its length and gives the element
there, wrapped; two texts of one integer name the same element, and a text of a negative integer
names none. -/
theorem member_iff_index (hsequence : value.variant = .sequence) :
    (value.elements.length ≤ Progression.sizeLimit →
      ∀ index (hindex : index < value.elements.length), Denotes (Chars.ofNat index) index
        ∧ ∀ name, Denotes name index →
          value.has name = .ok true ∧ value.lookup name = value.elements[index].reflect)
      ∧ (∀ name, value.has name = .ok true → ∃ index, ∃ hindex : index < value.elements.length,
        Denotes name (index : Nat) ∧ value.lookup name = value.elements[index].reflect)
      ∧ (∀ name other n, Denotes name n → Denotes other n → value.has name = value.has other
        ∧ ∀ member, value.lookup name = .ok member ↔ value.lookup other = .ok member)
      ∧ ∀ name n, Denotes name n → n < 0 →
        value.has name = .ok false ∧ value.lookup name = .error (.noMember name) := by
  refine ⟨fun hsize index hindex => ⟨?_, fun name => has_of_denotes hsequence hsize hindex⟩,
    fun name => exists_index_of_has hsequence, fun name other n hname hother => ⟨?_, ?_⟩,
    fun name n => has_of_negative hsequence⟩
  · exact denotes_ofNat (length_ofNat_le (by omega))
  · exact has_congr hsequence hname hother
  · intro member
    exact ⟨lookup_of_denotes hsequence hname hother, lookup_of_denotes hsequence hother hname⟩

/-- A wrapped tuple is asked for its second item, by a sign and digits of two scripts between
blanks, and for the one before its first. -/
theorem member_iff_index_spelled :
    let value : Value := .reflected (.tuple [.ofInt 7, .reflected (.ofChars ['x'])])
    let name : Chars := ['\u00a0', '+', '\u0660', '_', '1', ' ']
    value.variant = .sequence ∧ Denotes name 1 ∧ value.has name = .ok true
      ∧ value.lookup name = .ok (.ofChars ['x'])
      ∧ value.lookup ['-', '1'] = .error (.noMember ['-', '1']) := by
  intro value name
  have hsequence : value.variant = .sequence := rfl
  have hname : Denotes name 1 := readInt?_eq_some_iff.mp (by decide)
  have hnegative : Denotes ['-', '1'] (-1) := readInt?_eq_some_iff.mp (by decide)
  obtain ⟨hindices, -, -, hnone⟩ := member_iff_index hsequence
  obtain ⟨hhas, hlookup⟩ := (hindices (by decide) 1 (by decide)).2 name hname
  exact ⟨hsequence, hname, hhas, hlookup, (hnone _ _ hnegative (by decide)).2⟩

/-- **Not every index names an item**: a progression that is too long to tell its size fails when it
is asked for its first. -/
theorem first_index_tooLong :
    let value : Value := .range ⟨0, 9223372036854775808, 1⟩
    value.variant = .sequence ∧ 0 < value.elements.length
      ∧ value.has (Chars.ofNat 0) = .error .tooLong
      ∧ value.lookup (Chars.ofNat 0) = .error .tooLong := by
  intro value
  have hlong : Progression.sizeLimit < Progression.length ⟨0, 9223372036854775808, 1⟩ := by
    decide +kernel
  have hitems : 0 < value.elements.length := by
    rw [length_elements_range]
    exact Nat.zero_lt_of_lt hlong
  have hread : readInt? (Chars.ofNat 0) = some 0 :=
    readInt?_eq_some_iff.mpr (denotes_ofNat (by decide))
  have hmapping : ¬ value.IsHostMapping := not_isHostMapping_of_sequence rfl
  have hhas : value.has (Chars.ofNat 0) = .error .tooLong :=
    (has_eq_error_iff hmapping).mpr (.inr ⟨rfl, _, 0, rfl, hread, by decide, hlong⟩)
  exact ⟨rfl, hitems, hhas, (lookup_of_has_error hmapping hhas).1⟩

end Value

end Mustache
