import Mustache.Proofs.Value.Membership

/-!
# One frame decides a name

Of a name that is not a dot alone, the first segment picks a frame: the innermost one that has such
a member (`Scope.FindsIn`). From there on the other frames are no matter. The segments are looked up
one after the other from that frame (`Value.follow`), and what comes of this is what comes of the
name, except that a member that is missing leaves the whole name unresolved
(`Scope.orUnresolved`).

**The law** (`Scope.resolve_one_frame`): a name comes to the same in all scopes in which the same
frame is picked, whatever frames stand inside it that have no such member, and whatever frames stand
outside. A scope that picks no frame leaves the name unresolved, if it is not for a frame that fails
to answer.
-/

namespace Mustache

namespace Value

/-- **The segments looked up one after the other**, from a value on, if each is there. -/
def follow : List Chars → Value → Except Fault (Option Value)
  | [], value => .ok (some value)
  | segment :: rest, value => do
    match ← value.member? segment with
    | some member => follow rest member
    | none => return none

/-- Where the first segments lead, the others are followed from. -/
theorem follow_append_of_eq_some {before : List Chars} {value found : Value}
    (h : value.follow before = .ok (some found)) (after : List Chars) :
    value.follow (before ++ after) = found.follow after := by
  induction before generalizing value with
  | nil =>
    cases h
    rfl
  | cons segment before ih =>
    rw [List.cons_append, follow]
    rw [follow] at h
    cases hmember : value.member? segment with
    | error fault =>
      rw [hmember] at h
      cases h
    | ok member =>
      rw [hmember] at h
      cases member with
      | none => cases h
      | some member => exact ih h

/-- What all segments lead to, the first lead to, and from there the others. -/
theorem exists_of_follow_append {before after : List Chars} {value target : Value}
    (h : value.follow (before ++ after) = .ok (some target)) :
    ∃ found : Value, value.follow before = .ok (some found)
      ∧ found.follow after = .ok (some target) := by
  induction before generalizing value with
  | nil => exact ⟨value, rfl, h⟩
  | cons segment before ih =>
    rw [List.cons_append, follow] at h
    rw [follow]
    cases hmember : value.member? segment with
    | error fault =>
      rw [hmember] at h
      cases h
    | ok member =>
      rw [hmember] at h
      cases member with
      | none => cases h
      | some member => exact ih h

end Value

namespace Scope

variable {scope : Scope} {name : Chars} {fault : Fault}

/-! ## The frame that is picked -/

/-- Frames without the member are passed over. -/
theorem findMember_append {segment : Chars} {inner : List Value}
    (h : ∀ other ∈ inner, other.has segment = .ok false) (outer : List Value) :
    findMember segment (inner ++ outer) = findMember segment outer := by
  induction inner with
  | nil => rfl
  | cons frame inner ih =>
    have hnone := Value.member?_eq_none_iff.mpr (h frame List.mem_cons_self)
    rw [List.cons_append, findMember, hnone]
    exact ih fun other hother => h other (List.mem_cons_of_mem _ hother)

/-- **Frames have no member of a name**, or there is a first one that says something else. -/
theorem frames_cases (segment : Chars) (frames : List Value) :
    (∀ frame ∈ frames, frame.has segment = .ok false)
      ∨ ∃ inner frame outer, frames = inner ++ frame :: outer
        ∧ (∀ other ∈ inner, other.has segment = .ok false) ∧ frame.has segment ≠ .ok false := by
  induction frames with
  | nil => exact .inl fun frame h => absurd h List.not_mem_nil
  | cons frame frames ih =>
    by_cases hframe : frame.has segment = .ok false
    · rcases ih with hnone | ⟨inner, other, outer, rfl, hinner, hother⟩
      · exact .inl (List.forall_mem_cons.mpr ⟨hframe, hnone⟩)
      · exact .inr ⟨frame :: inner, other, outer, rfl, List.forall_mem_cons.mpr ⟨hframe, hinner⟩,
          hother⟩
    · exact .inr ⟨[], frame, frames, rfl, fun _ h => absurd h List.not_mem_nil, hframe⟩

/-- **No frame answers** where one fails to, and those inside it do not have the member. -/
theorem findMember_eq_error_iff {segment : Chars} {frames : List Value} :
    findMember segment frames = .error fault ↔ ∃ inner frame outer, frames = inner ++ frame :: outer
      ∧ (∀ other ∈ inner, other.has segment = .ok false)
      ∧ frame.member? segment = .error fault := by
  constructor
  · intro h
    rcases frames_cases segment frames with hnone | ⟨inner, frame, outer, rfl, hinner, hframe⟩
    · have hall := findMember_append hnone []
      rw [List.append_nil, h] at hall
      cases hall
    · rw [findMember_append hinner, findMember] at h
      cases hmember : frame.member? segment with
      | error cause =>
        rw [hmember] at h
        cases h
        exact ⟨inner, frame, outer, rfl, hinner, hmember⟩
      | ok member =>
        rw [hmember] at h
        cases member with
        | none => exact absurd (Value.member?_eq_none_iff.mp hmember) hframe
        | some member => cases h
  · rintro ⟨inner, frame, outer, rfl, hinner, hframe⟩
    rw [findMember_append hinner, findMember, hframe]
    rfl

/-- **The frame that a segment picks**: it has such a member, and the frames inside it do not. -/
def FindsIn (scope : Scope) (segment : Chars) (frame : Value) : Prop :=
  ∃ inner outer, scope.frames = inner ++ frame :: outer
    ∧ (∀ other ∈ inner, other.has segment = .ok false) ∧ frame.has segment = .ok true

/-- What is found is the member of the frame that is picked. -/
theorem FindsIn.findMember {segment : Chars} {frame : Value} (h : scope.FindsIn segment frame) :
    findMember segment scope.frames = frame.member? segment := by
  obtain ⟨inner, outer, hframes, hinner, hframe⟩ := h
  rw [hframes, findMember_append hinner, Scope.findMember, Value.member?_of_has hframe]
  cases frame.lookup segment <;> rfl

/-! ## The path from there -/

/-- A path is walked part after part. -/
theorem walk_append (name : Chars) (before after : List Chars) (value : Value) :
    walk name (before ++ after) value = walk name before value >>= walk name after := by
  induction before generalizing value with
  | nil => rfl
  | cons segment before ih =>
    rw [List.cons_append, walk, walk]
    cases value.member? segment with
    | error fault => rfl
    | ok member =>
      cases member with
      | none => rfl
      | some member => exact ih member

/-- **What comes of a name** when this comes of its segments: a member that is missing leaves the
whole name unresolved, and a fault stays. -/
def orUnresolved (name : Chars) : Except Fault (Option Value) → Except Fault Value
  | .ok (some value) => .ok value
  | .ok none => .error (.unresolved name)
  | .error fault => .error fault

/-- **A path is walked** by looking its segments up one after the other. -/
theorem walk_eq_follow (name : Chars) (segments : List Chars) (value : Value) :
    walk name segments value = orUnresolved name (value.follow segments) := by
  induction segments generalizing value with
  | nil => rfl
  | cons segment rest ih =>
    rw [walk, Value.follow]
    cases value.member? segment with
    | error fault => rfl
    | ok member =>
      cases member with
      | none => rfl
      | some member => exact ih member

/-- A name that is not a dot alone is looked up in the frames, and then walked. -/
theorem resolve_of_split {first : Chars} {rest : List Chars} (hname : name ≠ ['.'])
    (hpath : Chars.split '.' name = first :: rest) :
    scope.resolve name = (do
      match ← findMember first scope.frames with
      | some value => walk name rest value
      | none => throw (.unresolved name)) := by
  unfold resolve
  generalize Chars.split '.' name = segments at hpath ⊢
  subst hpath
  exact if_neg hname

section Path

variable {first : Chars} {rest : List Chars}

/-- **The frame that is picked decides the name.** -/
theorem FindsIn.resolve {frame : Value} (h : scope.FindsIn first frame) (hname : name ≠ ['.'])
    (hpath : Chars.split '.' name = first :: rest) :
    scope.resolve name = orUnresolved name (frame.follow (first :: rest)) := by
  rw [resolve_of_split hname hpath, h.findMember, Value.follow]
  cases frame.member? first with
  | error fault => rfl
  | ok member =>
    cases member with
    | none => rfl
    | some member => exact walk_eq_follow name rest member

/-- A name of which no frame has the first segment is not resolved. -/
theorem resolve_of_none (hname : name ≠ ['.']) (hpath : Chars.split '.' name = first :: rest)
    (hnone : ∀ frame ∈ scope.frames, frame.has first = .ok false) :
    scope.resolve name = .error (.unresolved name) := by
  have hfind := findMember_append hnone []
  rw [List.append_nil] at hfind
  rw [resolve_of_split hname hpath, hfind]
  rfl

/-- A name whose first segment a frame fails to answer to fails so. -/
theorem resolve_of_failing (hname : name ≠ ['.']) (hpath : Chars.split '.' name = first :: rest)
    (hfails : findMember first scope.frames = .error fault) :
    scope.resolve name = .error fault := by
  rw [resolve_of_split hname hpath, hfails]
  rfl

/-- **Every scope** picks a frame for a segment, or no frame has such a member, or one fails to
answer before any has. -/
theorem findsIn_cases (scope : Scope) (segment : Chars) :
    (∃ frame, scope.FindsIn segment frame)
      ∨ (∀ frame ∈ scope.frames, frame.has segment = .ok false)
      ∨ ∃ fault inner frame outer, scope.frames = inner ++ frame :: outer
        ∧ (∀ other ∈ inner, other.has segment = .ok false)
        ∧ frame.has segment = .error fault := by
  rcases frames_cases segment scope.frames with
    hnone | ⟨inner, frame, outer, hframes, hinner, hframe⟩
  · exact .inr (.inl hnone)
  · cases hhas : frame.has segment with
    | error fault =>
      exact .inr (.inr ⟨fault, inner, frame, outer, hframes, hinner, hhas⟩)
    | ok found =>
      cases found with
      | false => exact absurd hhas hframe
      | true => exact .inl ⟨frame, inner, outer, hframes, hinner, hhas⟩

/-- **One frame decides a name.** Where the first segment picks a frame, the name comes to what its
segments come to, looked up one after the other from that frame, and so it does in every other scope
in which that frame is picked. A later segment that is missing leaves the whole name unresolved,
whatever the frames further out have. Where no frame has the first segment, the name is unresolved,
and there is no third way but that a frame fails to answer. -/
theorem resolve_one_frame (hname : name ≠ ['.']) (hpath : Chars.split '.' name = first :: rest) :
    (∀ scope : Scope, ∀ frame, scope.FindsIn first frame →
        scope.resolve name = orUnresolved name (frame.follow (first :: rest))
          ∧ (∀ other : Scope, other.FindsIn first frame → other.resolve name = scope.resolve name)
          ∧ ∀ before segment after found, rest = before ++ segment :: after →
            frame.follow (first :: before) = .ok (some found) → found.has segment = .ok false →
            scope.resolve name = .error (.unresolved name))
      ∧ (∀ scope : Scope, (∀ frame ∈ scope.frames, frame.has first = .ok false) →
        scope.resolve name = .error (.unresolved name))
      ∧ ∀ scope : Scope, (∃ frame, scope.FindsIn first frame)
        ∨ (∀ frame ∈ scope.frames, frame.has first = .ok false)
        ∨ ∃ inner frame outer fault, scope.frames = inner ++ frame :: outer
          ∧ (∀ other ∈ inner, other.has first = .ok false) ∧ frame.has first = .error fault
          ∧ scope.resolve name = .error fault := by
  refine ⟨fun scope frame h => ⟨h.resolve hname hpath, fun other hother => ?_, ?_⟩,
    fun scope hnone => resolve_of_none hname hpath hnone, fun scope => ?_⟩
  · rw [h.resolve hname hpath, hother.resolve hname hpath]
  · rintro before segment after found rfl hfound hmissing
    have hsplit : first :: (before ++ segment :: after)
        = (first :: before) ++ (segment :: after) := rfl
    rw [h.resolve hname hpath, hsplit, Value.follow_append_of_eq_some hfound, Value.follow,
      Value.member?_eq_none_iff.mpr hmissing]
    rfl
  · obtain hfinds | hnone | ⟨fault, inner, frame, outer, hframes, hinner, hframe⟩ :=
      findsIn_cases scope first
    · exact .inl hfinds
    · exact .inr (.inl hnone)
    · have hfails : findMember first scope.frames = .error fault := findMember_eq_error_iff.mpr
        ⟨inner, frame, outer, hframes, hinner, Value.member?_of_has_error hframe⟩
      exact .inr (.inr ⟨inner, frame, outer, fault, hframes, hinner, hframe,
        resolve_of_failing hname hpath hfails⟩)

/-- A name stops at a number inside the frame that is picked, though the frame further out would
resolve it. -/
theorem resolve_one_frame_shadowed :
    let entry (name : Char) (value : Value) : Value := .mapping [(.ofChars [name], value)]
    let picked := entry 'a' (entry 'b' (.ofInt 1))
    let further := entry 'a' (entry 'b' (entry 'c' (.ofInt 2)))
    let scope : Scope := ⟨.ofInt 0, [picked, further]⟩
    let name := "a.b.c".toList
    name ≠ ['.'] ∧ Chars.split '.' name = [['a'], ['b'], ['c']] ∧ scope.FindsIn ['a'] picked
      ∧ scope.resolve name = .error (.unresolved name)
      ∧ (Scope.ofValue further).resolve name = .ok (.ofInt 2) := by
  intro entry picked further scope name
  have hname : name ≠ ['.'] := by decide
  have hpath : Chars.split '.' name = [['a'], ['b'], ['c']] := rfl
  have hfinds : scope.FindsIn ['a'] picked := by
    refine ⟨[.ofInt 0], [further], rfl, fun other hother => ?_, rfl⟩
    cases List.mem_singleton.mp hother
    rfl
  have hpicked := ((resolve_one_frame hname hpath).1 scope picked hfinds).2.2
  exact ⟨hname, hpath, hfinds, hpicked [['b']] ['c'] [] (.ofInt 1) rfl rfl rfl, rfl⟩

end Path

end Scope

end Mustache
