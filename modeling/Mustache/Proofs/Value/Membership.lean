import Mustache.Proofs.Value.Reach

/-!
# Having a member and looking it up

A value is asked whether it has a member of a name (`Value.has`), and the member is looked up
(`Value.lookup`). Each variant answers the two questions by themselves, and whoever resolves a name
looks up what a value says it has, without a second thought (`Value.member?`).

**The law** (`Value.has_agrees`): the two agree. What a value has can be looked up; of what it has
not, the lookup says that there is no member of that very name; and a value that fails to answer
fails to both questions in the same way. It fails for one of two reasons only. An attribute fails
when it is read, and not as one that is not there (`Value.AttributeFails`); or a progression is
asked for an index and is too long to know its size (`Value.CannotTellIndex`).

Two kinds of values are left out, and do not agree. A mapping of the host's own answers each
question as it likes: one that gives a default says that it has no such member, and then gives one.
And a sequence or a mapping may have a member that cannot be wrapped, since its class cannot be read
(`Value.Withholds`).
-/

namespace Mustache

namespace Value

variable {value : Value} {name : Chars} {fault : Fault}

/-! ## Wrapped values -/

/-- A wrapped value is asked as the value inside. -/
theorem has_bare (value : Value) (name : Chars) : value.bare.has name = value.has name := by
  fun_induction Value.bare value with
  | case1 value ih => rw [ih, has]
  | case2 => rfl

/-- **The value is not wrapped.** -/
def Bare (value : Value) : Prop := ∀ inner, value ≠ .reflected inner

theorem bare_bare (value : Value) : value.bare.Bare := by
  fun_induction Value.bare value with
  | case1 value ih => exact ih
  | case2 value hbare => exact hbare

/-- What a value passes for is not wrapped. -/
theorem bare_of_reflect {passed : Value} (h : value.reflect = .ok passed) : passed.Bare := by
  cases value with
  | reflected value =>
    cases h
    exact bare_bare value
  | object host attributes =>
    unfold reflect guise at h
    simp only at h
    split at h
    · cases h
      intro inner hinner
      cases hinner
    next answer _ =>
      cases answer with
      | error fault => cases h
      | ok passed =>
        cases h
        exact bare_bare passed
  | _ =>
    cases h
    intro inner hinner
    cases hinner

/-! ## A member that was asked for -/

/-- There is no member just when the value says that it has none. -/
theorem member?_eq_none_iff : value.member? name = .ok none ↔ value.has name = .ok false := by
  unfold member?
  cases value.has name with
  | error fault => exact iff_of_false (fun h => by cases h) (fun h => by cases h)
  | ok held =>
    cases held with
    | false => exact iff_of_true rfl rfl
    | true =>
      refine iff_of_false (fun h => ?_) (fun h => by cases h)
      have h : (value.lookup name >>= fun member => .ok (some member)) = .ok none := h
      obtain ⟨member, -, hmember⟩ := bind_eq_ok.mp h
      cases hmember

/-- What the value says that it has is looked up. -/
theorem member?_of_has (h : value.has name = .ok true) :
    value.member? name = (value.lookup name).map some := by
  unfold member?
  rw [h]
  cases value.lookup name <;> rfl

/-- A value that fails to say whether it has a member gives none. -/
theorem member?_of_has_error (h : value.has name = .error fault) :
    value.member? name = .error fault := by
  unfold member?
  rw [h]
  rfl

/-- A member that is given is one that the value says that it has. -/
theorem has_of_member? {member : Value} (h : value.member? name = .ok (some member)) :
    value.has name = .ok true := by
  unfold member? at h
  cases hhas : value.has name with
  | error fault =>
    rw [hhas] at h
    cases h
  | ok held =>
    rw [hhas] at h
    cases held with
    | true => rfl
    | false => cases h

/-- A member that is given was looked up. -/
theorem lookup_of_member? {member : Value} (h : value.member? name = .ok (some member)) :
    value.lookup name = .ok member := by
  rw [member?_of_has (has_of_member? h)] at h
  cases hlookup : value.lookup name with
  | error fault =>
    rw [hlookup] at h
    cases h
  | ok found =>
    rw [hlookup] at h
    cases h
    rfl

/-! ## Why a value fails to answer -/

/-- **The value is a mapping of the host's own.** -/
def IsHostMapping (value : Value) : Prop :=
  ∃ host holds gives, value.bare = .hostMapping host holds gives

/-- **An attribute fails** when it is read, and not as one that is not there: by itself, or since
the class of its value cannot be read. -/
def AttributeFails (value : Value) (name : Chars) (fault : Fault) : Prop :=
  isBlockedName name = false
    ∧ readAttribute name value.bare.attributes >>= reflect = .error fault
    ∧ fault.meansAbsent = false

/-- **A progression cannot tell whether it has an index**: the name is one, and the progression is
too long to be asked for its size. -/
def CannotTellIndex (value : Value) (name : Chars) : Prop :=
  ∃ progression index, value.bare = .range progression
    ∧ Decimal.readInt? name = some index ∧ 0 ≤ index
    ∧ Progression.sizeLimit < progression.length

/-- A value without attributes has none that fails. -/
theorem not_attributeFails (h : value.bare.attributes = []) :
    ¬ value.AttributeFails name fault := by
  rintro ⟨-, hread, hother⟩
  rw [h] at hread
  cases hread
  cases hother

/-- The index of a name cannot be told just when the size is wanted and cannot be told. -/
theorem indexOf?_eq_error_iff {size : Except Fault Nat} :
    indexOf? name size = .error fault
      ↔ (∃ index, Decimal.readInt? name = some index ∧ 0 ≤ index) ∧ size = .error fault := by
  unfold indexOf?
  cases Decimal.readInt? name with
  | none => simp
  | some index =>
    by_cases hnegative : index < 0
    · have hnot : ¬ 0 ≤ index := by omega
      simp [hnegative, hnot]
    · have hindex : 0 ≤ index := by omega
      simp only [if_neg hnegative, Option.some.injEq, exists_eq_left', hindex, true_and]
      cases size with
      | ok n => exact iff_of_false (fun h => by cases h) (fun h => by cases h)
      | error cause =>
        show (.error cause : Except Fault (Option Nat)) = .error fault ↔ _
        simp only [Except.error.injEq]

/-- The size of a progression cannot be told just when it is too long. -/
theorem size_eq_error_iff {progression : Progression} :
    progression.size = .error fault
      ↔ fault = .tooLong ∧ Progression.sizeLimit < progression.length := by
  unfold Progression.size
  split
  next hshort => simp [Nat.not_lt.mpr hshort]
  next hlong => simp [Nat.lt_of_not_le hlong, eq_comm]

/-- A sequence of values can always tell whether it has an index. -/
theorem indexOf?_map_ne_error (n : Nat) :
    (indexOf? name (.ok n)).map (·.isSome) ≠ .error fault := by
  intro h
  cases hindex : indexOf? name (.ok n) with
  | ok index? =>
    rw [hindex] at h
    cases h
  | error cause => cases (indexOf?_eq_error_iff.mp hindex).2

/-- Asking a progression fails just when it is asked for an index and is too long. -/
theorem has_range_eq_error_iff {progression : Progression} :
    (range progression).has name = .error fault
      ↔ fault = .tooLong ∧ (∃ index, Decimal.readInt? name = some index ∧ 0 ≤ index)
        ∧ Progression.sizeLimit < progression.length := by
  have hmap : (range progression).has name = .error fault
      ↔ indexOf? name progression.size = .error fault := by
    rw [has]
    cases indexOf? name progression.size <;> simp [Except.map]
  rw [hmap, indexOf?_eq_error_iff, size_eq_error_iff, and_left_comm]

/-- **Asking for an attribute fails** where the name is open and reading the attribute fails, and
not for want of it. -/
theorem has_object_eq_error_iff {host : Host} {attributes : List (Chars × Except Fault Value)} :
    (object host attributes).has name = .error fault
      ↔ isBlockedName name = false ∧ readAttribute name attributes >>= reflect = .error fault
        ∧ fault.meansAbsent = false := by
  rw [Value.has]
  unfold readMember
  cases isBlockedName name with
  | true => simp [Fault.kind]
  | false =>
    simp only [Bool.false_eq_true, if_false, true_and]
    cases readAttribute name attributes >>= reflect with
    | ok member => simp
    | error cause =>
      cases hother : cause.meansAbsent with
      | true =>
        simp only [hother, if_true, Fault.kind]
        refine iff_of_false (fun h => by cases h) ?_
        rintro ⟨hcause, hfault⟩
        cases hcause
        cases hother.symm.trans hfault
      | false =>
        have hkey : cause.kind ≠ .key := by
          intro hkey
          rw [Fault.meansAbsent, hkey] at hother
          cases hother
        simp only [hother, Bool.false_eq_true, if_false, if_neg hkey, Except.error.injEq]
        constructor
        · rintro rfl
          exact ⟨rfl, hother⟩
        · exact fun h => h.1

/-- **A value fails to answer** for one of two reasons, unless it is a mapping of the host's own. -/
theorem has_eq_error_iff (hmapping : ¬ value.IsHostMapping) :
    value.has name = .error fault
      ↔ value.AttributeFails name fault ∨ fault = .tooLong ∧ value.CannotTellIndex name := by
  have hbare := bare_bare value
  -- both reasons are about the value inside
  rw [← has_bare, AttributeFails, CannotTellIndex]
  unfold IsHostMapping at hmapping
  generalize value.bare = inside at hbare hmapping ⊢
  cases inside with
  | range progression =>
    rw [has_range_eq_error_iff]
    constructor
    · rintro ⟨hfault, ⟨index, hread, hindex⟩, hlong⟩
      exact .inr ⟨hfault, progression, index, rfl, hread, hindex, hlong⟩
    · rintro (⟨-, hread, hother⟩ | ⟨hfault, other, index, hother, hread, hindex, hlong⟩)
      · cases hread
        cases hother
      · cases hother
        exact ⟨hfault, ⟨index, hread, hindex⟩, hlong⟩
  | octets bytes attributes =>
    -- octets are asked as any object is
    show (object (.plain [] []) attributes).has name = .error fault ↔ _
    rw [has_object_eq_error_iff]
    refine ⟨.inl, ?_⟩
    rintro (hfails | ⟨-, other, index, hother, -⟩)
    · exact hfails
    · cases hother
  | object host attributes =>
    rw [has_object_eq_error_iff]
    refine ⟨.inl, ?_⟩
    rintro (hfails | ⟨-, other, index, hother, -⟩)
    · exact hfails
    · cases hother
  | hostMapping host holds gives => exact absurd ⟨host, holds, gives, rfl⟩ hmapping
  | reflected inner => exact absurd rfl (hbare inner)
  | list items | tuple items =>
    rw [has]
    refine iff_of_false (indexOf?_map_ne_error _) ?_
    rintro (⟨-, hread, hother⟩ | ⟨-, other, index, hother, -⟩)
    · cases hread
      cases hother
    · cases hother
  | scalar | mapping | absent =>
    rw [has]
    refine iff_of_false (fun h => by cases h) ?_
    rintro (⟨-, hread, hother⟩ | ⟨-, other, index, hother, -⟩)
    · cases hread
      cases hother
    · cases hother

/-- A value whose attribute fails is no mapping of the host's own. -/
theorem AttributeFails.not_isHostMapping (h : value.AttributeFails name fault) :
    ¬ value.IsHostMapping := by
  rintro ⟨host, holds, gives, hbare⟩
  exact not_attributeFails (congrArg attributes hbare) h

/-- Asking for an attribute that fails fails so. -/
theorem AttributeFails.has (h : value.AttributeFails name fault) :
    value.has name = .error fault :=
  (has_eq_error_iff h.not_isHostMapping).mpr (.inl h)

/-! ## What follows from asking -/

/-- What is looked up is there, unless a mapping of the host's own gives it. -/
theorem has_of_lookup (hmapping : ¬ value.IsHostMapping) {member : Value}
    (h : value.lookup name = .ok member) : value.has name = .ok true := by
  have hanswered := value.answered name
  rw [h] at hanswered
  generalize hlookup : (.ok member : Except Fault Value) = found, value.has name = has
    at hanswered ⊢
  cases hanswered with
  | found => rfl
  | byHost _ hbare => exact absurd ⟨_, _, _, hbare⟩ hmapping
  | _ => cases hlookup

/-- **A value that fails to answer** fails to both questions in the same way, unless it is a mapping
of the host's own. -/
theorem lookup_of_has_error (hmapping : ¬ value.IsHostMapping) (h : value.has name = .error fault) :
    value.lookup name = .error fault ∧ fault.meansAbsent = false := by
  have hanswered := value.answered name
  rw [h] at hanswered
  generalize hhas : (.error fault : Except Fault Bool) = has, value.lookup name = found
    at hanswered ⊢
  cases hanswered with
  | failed _ hother =>
    cases hhas
    exact ⟨rfl, hother⟩
  | byHost _ hbare => exact absurd ⟨_, _, _, hbare⟩ hmapping
  | _ => cases hhas

/-- A mapping that gives zero for a name that it does not hold. -/
example :
    let counter : Value := .hostMapping (.plain [] []) (fun _ => .ok false) fun _ => .ok (.ofInt 0)
    counter.has ['x'] = .ok false ∧ counter.lookup ['x'] = .ok (.ofInt 0) := ⟨rfl, rfl⟩

end Value

end Mustache
