import Mustache.Scope

/-!
# What a template gets at

A template looks at its data from the frames of a scope, one member or item after the other. The
values it can ever get hold of are those **reached** from a frame (`Value.Reaches`): what is looked
up (`Scope.resolve_reaches`) and what a block runs over (`Value.items_reached`) is among them.

So all that can fail is known beforehand (`Value.MayFail`). Asking for a member or for the items of
a block fails because a progression is too long to be asked for its size, because an attribute that
is reached fails with a fault that says more than that it is not there (`Value.Raises`), because the
class of an object cannot be read (`Value.HidesClass`), or because a mapping of the host fails to
answer (`Value.MappingFails`). A name that is not resolved fails as unresolved, by its own full
name, or with one of these (`Scope.resolve_error`).
-/

namespace Mustache

namespace Value

/-- The attributes of a value, with what reading each gives. -/
def attributes : Value → List (Chars × Except Fault Value)
  | .octets _ attributes | .object _ attributes => attributes
  | _ => []

/-- **A value is reached** from another: by way of items, entries, attributes that can be read, and
what a mapping of the host gives. -/
inductive Reaches : Value → Value → Prop
  | self (value : Value) : value.Reaches value
  | listItem {items : List Value} {item target : Value} (hitem : item ∈ items)
      (h : item.Reaches target) : (Value.list items).Reaches target
  | tupleItem {items : List Value} {item target : Value} (hitem : item ∈ items)
      (h : item.Reaches target) : (Value.tuple items).Reaches target
  | rangeMember (progression : Progression) (index : Nat) :
      (Value.range progression).Reaches (.ofInt (progression.member index))
  | entryValue {entries : List (Value × Value)} {key item target : Value}
      (hitem : (key, item) ∈ entries) (h : item.Reaches target) :
      (Value.mapping entries).Reaches target
  | octetsAttribute {bytes : List UInt8} {name : Chars}
      {attributes : List (Chars × Except Fault Value)} {item target : Value}
      (hitem : (name, .ok item) ∈ attributes) (h : item.Reaches target) :
      (Value.octets bytes attributes).Reaches target
  | attributeValue {host : Host} {name : Chars} {attributes : List (Chars × Except Fault Value)}
      {item target : Value} (hitem : (name, .ok item) ∈ attributes) (h : item.Reaches target) :
      (Value.object host attributes).Reaches target
  | given {host : Host} {holds : Chars → Except Fault Bool} {gives : Chars → Except Fault Value}
      {name : Chars} {item target : Value} (hitem : gives name = .ok item)
      (h : item.Reaches target) : (Value.hostMapping host holds gives).Reaches target
  | inside {value target : Value} (h : value.Reaches target) :
      (Value.reflected value).Reaches target

namespace Reaches

variable {value item : Value} {fault : Fault}

theorem trans {middle target : Value} (h : value.Reaches middle) (htarget : middle.Reaches target) :
    value.Reaches target := by
  induction h with
  | self => exact htarget
  | listItem hitem _ ih => exact .listItem hitem (ih htarget)
  | tupleItem hitem _ ih => exact .tupleItem hitem (ih htarget)
  | rangeMember progression index =>
    -- an integer reaches nothing but itself
    cases htarget
    exact .rangeMember progression index
  | entryValue hitem _ ih => exact .entryValue hitem (ih htarget)
  | octetsAttribute hitem _ ih => exact .octetsAttribute hitem (ih htarget)
  | attributeValue hitem _ ih => exact .attributeValue hitem (ih htarget)
  | given hitem _ ih => exact .given hitem (ih htarget)
  | inside _ ih => exact .inside (ih htarget)

/-- The value of an attribute is reached. -/
theorem ofAttribute {name : Chars} (h : (name, .ok item) ∈ value.attributes) :
    value.Reaches item := by
  cases value with
  | octets => exact .octetsAttribute h (.self item)
  | object => exact .attributeValue h (.self item)
  | _ => cases h

/-- A value without its wrapping is reached. -/
theorem bare (value : Value) : value.Reaches value.bare := by
  fun_induction Value.bare value with
  | case1 value ih => exact .inside ih
  | case2 value => exact .self value

end Reaches

/-! ## What can fail -/

/-- **Some attribute fails with this fault**, of a value that is reached. -/
def Raises (value : Value) (fault : Fault) : Prop :=
  ∃ owner name, value.Reaches owner ∧ (name, .error fault) ∈ owner.attributes

/-- **The class of an object cannot be read**, of one that is reached. -/
def HidesClass (value : Value) (fault : Fault) : Prop :=
  ∃ host attributes, value.Reaches (.object host attributes)
    ∧ attributes.lookup classAttribute = some (.error fault)

/-- **A progression is reached that is too long** to be asked for its size. -/
def HoldsTooLong (value : Value) : Prop :=
  ∃ progression, value.Reaches (.range progression) ∧ Progression.sizeLimit < progression.length

/-- **A mapping of the host is reached that fails** to say whether it holds a name, or to give what
belongs to one. -/
def MappingFails (value : Value) (fault : Fault) : Prop :=
  ∃ host holds gives name, value.Reaches (.hostMapping host holds gives)
    ∧ (holds name = .error fault ∨ gives name = .error fault)

/-- **What can fail about a value.** -/
inductive MayFail (value : Value) : Fault → Prop
  /-- A progression is too long to be asked for its size. -/
  | tooLong (h : value.HoldsTooLong) : value.MayFail .tooLong
  /-- An attribute fails with a fault that says more than that it is not there. -/
  | raised {fault : Fault} (h : value.Raises fault) (hother : fault.meansAbsent = false) :
      value.MayFail fault
  /-- The class of an object cannot be read. -/
  | hidesClass {fault : Fault} (h : value.HidesClass fault) : value.MayFail fault
  /-- A mapping of the host fails to answer. -/
  | mapping {fault : Fault} (h : value.MappingFails fault) : value.MayFail fault

namespace Reaches

variable {value item : Value} {fault : Fault}

/-- What a value that is reached can fail with, the whole can fail with. -/
theorem raises (h : value.Reaches item) (hitem : item.Raises fault) : value.Raises fault := by
  obtain ⟨owner, name, howner, hmem⟩ := hitem
  exact ⟨owner, name, h.trans howner, hmem⟩

theorem hidesClass (h : value.Reaches item) (hitem : item.HidesClass fault) :
    value.HidesClass fault := by
  obtain ⟨host, attributes, hobject, hclass⟩ := hitem
  exact ⟨host, attributes, h.trans hobject, hclass⟩

/-- What can fail about a value that is reached can fail about the whole. -/
theorem mayFail (h : value.Reaches item) (hitem : item.MayFail fault) : value.MayFail fault := by
  cases hitem with
  | tooLong hlong =>
    obtain ⟨progression, hreached, hlong⟩ := hlong
    exact .tooLong ⟨progression, h.trans hreached, hlong⟩
  | raised hraises hother => exact .raised (h.raises hraises) hother
  | hidesClass hclass => exact .hidesClass (h.hidesClass hclass)
  | mapping hfails =>
    obtain ⟨host, holds, gives, name, hreached, hfails⟩ := hfails
    exact .mapping ⟨host, holds, gives, name, h.trans hreached, hfails⟩

end Reaches

/-- What is found at a name stands there. -/
theorem mem_of_lookup_eq_some {name : Chars} {attributes : List (Chars × Except Fault Value)}
    {answer : Except Fault Value} (h : attributes.lookup name = some answer) :
    (name, answer) ∈ attributes := by
  obtain ⟨before, after, rfl, _⟩ := List.lookup_eq_some_iff.mp h
  exact List.mem_append_right _ List.mem_cons_self

/-- A class that cannot be read is an attribute that fails. -/
theorem HidesClass.raises {value : Value} {fault : Fault} (h : value.HidesClass fault) :
    value.Raises fault := by
  obtain ⟨host, attributes, hreached, hclass⟩ := h
  exact ⟨_, classAttribute, hreached, mem_of_lookup_eq_some hclass⟩

/-- **Wrapping a value** gives one that is reached, or the class of the value cannot be read. -/
theorem reflect_cases (value : Value) :
    (∃ passed, value.reflect = .ok passed ∧ value.Reaches passed)
      ∨ ∃ fault, value.reflect = .error fault ∧ value.HidesClass fault := by
  cases value with
  | reflected value => exact .inl ⟨value.bare, rfl, .inside (.bare value)⟩
  | object host attributes =>
    cases hclass : attributes.lookup classAttribute with
    | none => exact .inl ⟨_, by simp only [reflect, guise, hclass], .self _⟩
    | some answer =>
      have hreflect : (Value.object host attributes).reflect = answer.map Value.bare := by
        simp only [reflect, guise, hclass]
      have hmem := mem_of_lookup_eq_some hclass
      cases answer with
      | ok passed =>
        have hreached : (Value.object host attributes).Reaches passed := .ofAttribute hmem
        exact .inl ⟨passed.bare, hreflect, hreached.trans (.bare passed)⟩
      | error fault => exact .inr ⟨fault, hreflect, host, attributes, .self _, hclass⟩
  | _ => exact .inl ⟨_, rfl, .self _⟩

/-- A value that is wrapped is reached. -/
theorem reaches_of_reflect {value passed : Value} (h : value.reflect = .ok passed) :
    value.Reaches passed := by
  rcases value.reflect_cases with ⟨other, hreflect, hreached⟩ | ⟨fault, hreflect, -⟩
  · cases h.symm.trans hreflect
    exact hreached
  · cases h.symm.trans hreflect

/-- A value that cannot be wrapped hides its class. -/
theorem hidesClass_of_reflect {value : Value} {fault : Fault} (h : value.reflect = .error fault) :
    value.HidesClass fault := by
  rcases value.reflect_cases with ⟨passed, hreflect, -⟩ | ⟨other, hreflect, hclass⟩
  · cases h.symm.trans hreflect
  · cases h.symm.trans hreflect
    exact hclass

/-! ## The parts of a value -/

/-- **The index of a name**: none, or one within the size; only the size can fail. -/
theorem indexOf?_cases (name : Chars) (size : Except Fault Nat) :
    indexOf? name size = .ok none
      ∨ (∃ n index, size = .ok n ∧ index < n ∧ indexOf? name size = .ok (some index))
      ∨ ∃ fault, size = .error fault ∧ indexOf? name size = .error fault := by
  unfold indexOf?
  split
  · exact .inl rfl
  next index _ =>
    split
    · exact .inl rfl
    · cases size with
      | error fault => exact .inr (.inr ⟨fault, rfl, rfl⟩)
      | ok n =>
        by_cases hindex : index < n
        · refine .inr (.inl ⟨n, index.toNat, rfl, by omega, ?_⟩)
          exact congrArg Except.ok (if_pos hindex)
        · exact .inl (congrArg Except.ok (if_neg hindex))

/-- The value of a key is that of an entry. -/
theorem mem_of_entry?_eq_some {name : Chars} {entries : List (Value × Value)} {item : Value}
    (h : entry? name entries = some item) : ∃ key, (key, item) ∈ entries := by
  fun_induction entry? name entries with
  | case1 => cases h
  | case2 key found rest hkey =>
    cases h
    exact ⟨key, List.mem_cons_self⟩
  | case3 key found rest hkey ih =>
    obtain ⟨key', hmem⟩ := ih h
    exact ⟨key', List.mem_cons_of_mem _ hmem⟩

/-- There is an entry of the name just when it has a value. -/
theorem any_eq_isSome_entry? (name : Chars) (entries : List (Value × Value)) :
    (entries.any fun entry => entry.1.string? = some name) = ( entry? name entries).isSome := by
  fun_induction entry? name entries with
  | case1 => rfl
  | case2 key found rest hkey => simp [hkey]
  | case3 key found rest hkey ih => simp [hkey, ih]

/-- **Reading an attribute** gives a value of it, wrapped, or there is none, or it fails with a
fault that says something else. -/
theorem readMember_cases (name : Chars) (owner : Value) :
    (∃ member, owner.Reaches member ∧ readMember name owner.attributes = .ok member)
      ∨ readMember name owner.attributes = .error (.noMember name)
      ∨ ∃ fault, owner.MayFail fault ∧ fault.meansAbsent = false
        ∧ readMember name owner.attributes = .error fault := by
  unfold readMember
  split
  · exact .inr (.inl rfl)
  · cases hread : readAttribute name owner.attributes >>= reflect with
    | ok member =>
      obtain ⟨item, hitem, hmember⟩ := bind_eq_ok.mp hread
      have hreached : owner.Reaches item := by
        unfold readAttribute at hitem
        split at hitem
        next answer hfound =>
          cases hitem
          exact .ofAttribute (mem_of_lookup_eq_some hfound)
        next => cases hitem
      exact .inl ⟨member, hreached.trans (reaches_of_reflect hmember), rfl⟩
    | error fault =>
      cases habsent : fault.meansAbsent with
      | true =>
        refine .inr (.inl ?_)
        simp only [habsent, if_true]
      | false =>
        refine .inr (.inr ⟨fault, ?_, habsent, ?_⟩)
        · rcases bind_eq_error.mp hread with hattribute | ⟨item, hitem, hclass⟩
          · unfold readAttribute at hattribute
            split at hattribute
            next answer hfound =>
              cases hattribute
              exact .raised ⟨owner, name, .self _, mem_of_lookup_eq_some hfound⟩ habsent
            next =>
              -- an attribute that is not there fails as absent
              cases hattribute
              cases habsent
          · unfold readAttribute at hitem
            split at hitem
            next answer hfound =>
              cases hitem
              have hreached : owner.Reaches item := .ofAttribute (mem_of_lookup_eq_some hfound)
              exact .hidesClass (hreached.hidesClass (hidesClass_of_reflect hclass))
            next => cases hitem
        · simp only [habsent, Bool.false_eq_true, if_false]

/-! ## Members and items -/

/-- The item of an index, or the value of a key, as the host holds it. -/
def stored? (name : Chars) : Value → Option Value
  | .list items | .tuple items =>
    match indexOf? name (.ok items.length) with
    | .ok index => index.bind (items[·]?)
    | .error _ => none
  | .mapping entries => entry? name entries
  | _ => none

/-- **A member is withheld**: it is there, and its class cannot be read. -/
def Withholds (value : Value) (name : Chars) (fault : Fault) : Prop :=
  ∃ item, value.bare.stored? name = some item ∧ item.reflect = .error fault

/-- **What came of asking for a member**: whether it is there, and what it is. -/
inductive Answered (value : Value) (name : Chars) : Except Fault Bool → Except Fault Value → Prop
  | found {member : Value} (h : value.Reaches member) : value.Answered name (.ok true) (.ok member)
  | missing : value.Answered name (.ok false) (.error (.noMember name))
  /-- The value fails to answer, in the same way to both questions. -/
  | failed {fault : Fault} (h : value.MayFail fault) (hother : fault.meansAbsent = false) :
      value.Answered name (.error fault) (.error fault)
  /-- The member is there, and is withheld. -/
  | withheld {fault : Fault} (h : value.HidesClass fault) (hheld : value.Withholds name fault) :
      value.Answered name (.ok true) (.error fault)
  /-- A mapping of the host answers each question as it likes. -/
  | byHost {host : Host} {holds : Chars → Except Fault Bool} {gives : Chars → Except Fault Value}
      (h : value.Reaches (.hostMapping host holds gives))
      (hbare : value.bare = .hostMapping host holds gives) :
      value.Answered name (holds name) (gives name >>= reflect)

/-- What is stored is handed on wrapped, or it is withheld. -/
theorem answered_stored {value item : Value} {name : Chars} (h : value.Reaches item)
    (hstored : value.bare.stored? name = some item) :
    value.Answered name (.ok true) item.reflect := by
  rcases item.reflect_cases with ⟨passed, hreflect, hpassed⟩ | ⟨fault, hreflect, hclass⟩
  · rw [hreflect]
    exact .found (h.trans hpassed)
  · rw [hreflect]
    exact .withheld (h.hidesClass hclass) ⟨item, hstored, hreflect⟩

/-- A sequence of values is asked for the item of an index. -/
theorem answered_item {value : Value} (name : Chars) {items : List Value}
    (hreaches : ∀ item ∈ items, value.Reaches item)
    (hstored : value.bare.stored? name = (Value.list items).stored? name) :
    value.Answered name ((indexOf? name (.ok items.length)).map (·.isSome)) (do
      match (← indexOf? name (.ok items.length)).bind (items[·]?) with
      | some item => item.reflect
      | none => .error (.noMember name)) := by
  obtain hnone | ⟨n, index, hn, hindex, hsome⟩ | ⟨fault, hfault, -⟩ :=
    indexOf?_cases name (.ok items.length)
  · rw [hnone]
    exact .missing
  · cases hn
    have hitem : items[index]? = some items[index] := List.getElem?_eq_getElem hindex
    rw [hsome]
    show value.Answered name (.ok true)
      (match items[index]? with
        | some item => item.reflect
        | none => .error (.noMember name))
    rw [hitem]
    refine answered_stored (hreaches _ (List.getElem_mem hindex)) ?_
    rw [hstored, stored?, hsome]
    exact hitem
  · cases hfault

/-- A progression is asked for its member of an index. -/
theorem answered_range (name : Chars) (progression : Progression) :
    (Value.range progression).Answered name ((Value.range progression).has name)
      ((Value.range progression).lookup name) := by
  rw [has, lookup]
  obtain hnone | ⟨n, index, -, -, hsome⟩ | ⟨fault, hfault, herror⟩ :=
    indexOf?_cases name progression.size
  · rw [hnone]
    exact .missing
  · rw [hsome]
    exact .found (.rangeMember progression index)
  · rw [herror]
    unfold Progression.size at hfault
    split at hfault
    · cases hfault
    next hlong =>
      cases hfault
      exact .failed (.tooLong ⟨progression, .self _, Nat.lt_of_not_le hlong⟩) rfl

/-- An object is asked by looking the member up. -/
theorem answered_attribute (name : Chars) (owner : Value) :
    owner.Answered name
      (match readMember name owner.attributes with
        | .ok _ => .ok true
        | .error fault => if fault.kind = .key then .ok false else .error fault)
      (readMember name owner.attributes) := by
  obtain ⟨member, hmember, hread⟩ | hread | ⟨fault, hfails, hother, hread⟩ :=
    readMember_cases name owner
  · rw [hread]
    exact .found hmember
  · rw [hread]
    exact .missing
  · have hkey : fault.kind ≠ .key := by
      intro hkey
      rw [Fault.meansAbsent, hkey] at hother
      cases hother
    rw [hread]
    show owner.Answered name (if fault.kind = .key then .ok false else .error fault) _
    rw [if_neg hkey]
    exact .failed hfails hother

/-- **Asking a value for a member**: it has one that it reaches, it has none, or it fails. -/
theorem answered (name : Chars) (value : Value) :
    value.Answered name (value.has name) (value.lookup name) := by
  induction value using Value.lookup.induct name with
  | case1 items => exact answered_item name (fun item hmem => .listItem hmem (.self item)) rfl
  | case2 items => exact answered_item name (fun item hmem => .tupleItem hmem (.self item)) rfl
  | case3 progression => exact answered_range name progression
  | case4 entries item hitem =>
    obtain ⟨key, hmem⟩ := mem_of_entry?_eq_some hitem
    rw [has, lookup, any_eq_isSome_entry?, hitem]
    exact answered_stored (.entryValue hmem (.self item)) hitem
  | case5 entries hnone =>
    rw [has, lookup, any_eq_isSome_entry?, hnone]
    exact .missing
  | case6 bytes attributes => exact answered_attribute name (.octets bytes attributes)
  | case7 host attributes => exact answered_attribute name (.object host attributes)
  | case8 host holds gives => exact .byHost (.self _) rfl
  | case9 value ih =>
    rw [has, lookup]
    generalize value.has name = has, value.lookup name = member at ih ⊢
    cases ih with
    | found hmember => exact .found (.inside hmember)
    | missing => exact .missing
    | failed hfails hother => exact .failed (Reaches.mayFail (.inside (.self value)) hfails) hother
    | withheld hclass hheld =>
      exact .withheld (Reaches.hidesClass (.inside (.self value)) hclass) hheld
    | byHost hreached hbare => exact .byHost (.inside hreached) hbare
  | case10 | case11 => exact .missing

/-- A value that fails to say whether it has a member. -/
theorem mayFail_of_has {name : Chars} {value : Value} {fault : Fault}
    (h : value.has name = .error fault) : value.MayFail fault := by
  have hanswered := value.answered name
  rw [h] at hanswered
  generalize value.lookup name = member at hanswered
  generalize hhas : (Except.error fault : Except Fault Bool) = has at hanswered
  cases hanswered with
  | found | missing | withheld => cases hhas
  | failed hfails =>
    cases hhas
    exact hfails
  | @byHost host holds gives hreached =>
    exact .mapping ⟨host, holds, gives, name, hreached, .inl hhas.symm⟩

/-- A value that fails to give a member has none, or something failed. -/
theorem noMember_or_mayFail_of_lookup {name : Chars} {value : Value} {fault : Fault}
    (h : value.lookup name = .error fault) : fault = .noMember name ∨ value.MayFail fault := by
  have hanswered := value.answered name
  rw [h] at hanswered
  generalize value.has name = has at hanswered
  generalize hlookup : (Except.error fault : Except Fault Value) = member at hanswered
  cases hanswered with
  | found => cases hlookup
  | missing =>
    cases hlookup
    exact .inl rfl
  | failed hfails =>
    cases hlookup
    exact .inr hfails
  | withheld hclass =>
    cases hlookup
    exact .inr (.hidesClass hclass)
  | @byHost host holds gives hreached =>
    rcases bind_eq_error.mp hlookup.symm with hgives | ⟨item, hgives, hreflect⟩
    · exact .inr (.mapping ⟨host, holds, gives, name, hreached, .inr hgives⟩)
    · have hitem : value.Reaches item := hreached.trans (.given hgives (.self item))
      exact .inr (.hidesClass (hitem.hidesClass (hidesClass_of_reflect hreflect)))

/-- **A member is there, and is reached**, or the value says that it has none, or something
failed. -/
theorem member?_cases (name : Chars) (value : Value) :
    value.member? name = .ok none
      ∨ (∃ member, value.Reaches member ∧ value.member? name = .ok (some member))
      ∨ ∃ fault, value.MayFail fault ∧ value.member? name = .error fault := by
  have hanswered := value.answered name
  unfold member?
  generalize value.has name = has, value.lookup name = member at hanswered ⊢
  cases hanswered with
  | @found member hmember => exact .inr (.inl ⟨member, hmember, rfl⟩)
  | missing => exact .inl rfl
  | @failed fault hfails => exact .inr (.inr ⟨fault, hfails, rfl⟩)
  | @withheld fault hclass => exact .inr (.inr ⟨fault, .hidesClass hclass, rfl⟩)
  | @byHost host holds gives hreached =>
    cases hholds : holds name with
    | error fault =>
      exact .inr (.inr ⟨fault, .mapping ⟨host, holds, gives, name, hreached, .inl hholds⟩, rfl⟩)
    | ok held =>
      cases held with
      | false => exact .inl rfl
      | true =>
        cases hgives : gives name with
        | error fault =>
          exact .inr (.inr ⟨fault, .mapping ⟨host, holds, gives, name, hreached, .inr hgives⟩, rfl⟩)
        | ok item =>
          have hitem : value.Reaches item := hreached.trans (.given hgives (.self item))
          rcases item.reflect_cases with ⟨passed, hreflect, hpassed⟩ | ⟨fault, hreflect, hclass⟩
          · refine .inr (.inl ⟨passed, hitem.trans hpassed, ?_⟩)
            show (item.reflect >>= fun member => .ok (some member)) = _
            rw [hreflect]
            rfl
          · refine .inr (.inr ⟨fault, .hidesClass (hitem.hidesClass hclass), ?_⟩)
            show (item.reflect >>= fun member => .ok (some member)) = _
            rw [hreflect]
            rfl

/-- Wrapping values one after the other gives values that are reached, or some class cannot be
read. -/
theorem mapM_reflect_cases {value : Value} {items : List Value}
    (h : ∀ item ∈ items, value.Reaches item) :
    (∃ wrapped, items.mapM reflect = .ok wrapped ∧ ∀ item ∈ wrapped, value.Reaches item)
      ∨ ∃ fault, items.mapM reflect = .error fault ∧ value.HidesClass fault := by
  induction items with
  | nil => exact .inl ⟨[], rfl, fun _ hmem => absurd hmem List.not_mem_nil⟩
  | cons item rest ih =>
    have hitem : value.Reaches item := h item List.mem_cons_self
    rw [List.mapM_cons]
    rcases item.reflect_cases with ⟨passed, hreflect, hpassed⟩ | ⟨fault, hreflect, hclass⟩
    · rcases ih fun other hmem => h other (List.mem_cons_of_mem _ hmem) with
        ⟨wrapped, hrest, hwrapped⟩ | ⟨fault, hrest, hclass⟩
      · refine .inl ⟨passed :: wrapped, by rw [hreflect, hrest]; rfl, ?_⟩
        exact List.forall_mem_cons.mpr ⟨hitem.trans hpassed, hwrapped⟩
      · exact .inr ⟨fault, by rw [hreflect, hrest]; rfl, hclass⟩
    · exact .inr ⟨fault, by rw [hreflect]; rfl, hitem.hidesClass hclass⟩

/-- **The items of a block are reached** from its value, or the class of one cannot be read. -/
theorem items_cases (value : Value) :
    (∃ items, value.items = .ok items ∧ ∀ item ∈ items, value.Reaches item)
      ∨ ∃ fault, value.items = .error fault ∧ value.HidesClass fault := by
  fun_induction Value.items value with
  | case1 items => exact mapM_reflect_cases fun item hmem => .listItem hmem (.self item)
  | case2 items => exact mapM_reflect_cases fun item hmem => .tupleItem hmem (.self item)
  | case3 progression =>
    refine .inl ⟨_, rfl, fun item hmem => ?_⟩
    obtain ⟨n, hn, rfl⟩ := List.mem_map.mp hmem
    obtain ⟨index, -, rfl⟩ := List.mem_map.mp hn
    exact .rangeMember progression index
  | case4 simple =>
    refine .inl ⟨_, rfl, fun item hmem => ?_⟩
    split at hmem
    · cases List.mem_singleton.mp hmem
      exact .self _
    · cases hmem
  | case5 value ih =>
    rcases ih with ⟨items, hitems, hreached⟩ | ⟨fault, hitems, hclass⟩
    · exact .inl ⟨items, hitems, fun item hmem => .inside (hreached item hmem)⟩
    · exact .inr ⟨fault, hitems, Reaches.hidesClass (.inside (.self value)) hclass⟩
  | case6 => exact .inl ⟨[], rfl, fun _ hmem => absurd hmem List.not_mem_nil⟩
  | case7 value =>
    refine .inl ⟨[value], rfl, fun item hmem => ?_⟩
    cases List.mem_singleton.mp hmem
    exact .self _

/-- An item of a block is reached from its value. -/
theorem items_reached {value item : Value} {items : List Value} (hitems : value.items = .ok items)
    (h : item ∈ items) : value.Reaches item := by
  rcases value.items_cases with ⟨others, hothers, hreached⟩ | ⟨fault, hfault, -⟩
  · cases hitems.symm.trans hothers
    exact hreached item h
  · cases hitems.symm.trans hfault

/-- What the items of a block fail with. -/
theorem items_mayFail {value : Value} {fault : Fault} (h : value.items = .error fault) :
    value.MayFail fault := by
  rcases value.items_cases with ⟨items, hitems, -⟩ | ⟨other, hother, hclass⟩
  · cases h.symm.trans hitems
  · cases h.symm.trans hother
    exact .hidesClass hclass

end Value

namespace Scope

/-- **A value is reached from a scope**: from one of its frames. -/
def Reaches (scope : Scope) (value : Value) : Prop := ∃ frame ∈ scope.frames, frame.Reaches value

/-- **What can fail about a scope**: about one of its frames. -/
def MayFail (scope : Scope) (fault : Fault) : Prop := ∃ frame ∈ scope.frames, frame.MayFail fault

/-- What can fail about a value that is reached can fail about the scope. -/
theorem Reaches.mayFail {scope : Scope} {value : Value} {fault : Fault} (h : scope.Reaches value)
    (hvalue : value.MayFail fault) : scope.MayFail fault := by
  obtain ⟨frame, hframe, hreached⟩ := h
  exact ⟨frame, hframe, hreached.mayFail hvalue⟩

/-- **What came of a name**: a value that is reached, or there is none of the whole name, or
something failed on the way. -/
inductive Answered (scope : Scope) (name : Chars) : Except Fault Value → Prop
  | found {value : Value} (h : scope.Reaches value) : scope.Answered name (.ok value)
  | missing : scope.Answered name (.error (.unresolved name))
  | failed {fault : Fault} (h : scope.MayFail fault) : scope.Answered name (.error fault)

/-- **The segments of a path**, looked up from a value that is reached. -/
theorem answered_walk {scope : Scope} (name : Chars) (segments : List Chars) {value : Value}
    (h : scope.Reaches value) : scope.Answered name (walk name segments value) := by
  induction segments generalizing value with
  | nil => exact .found h
  | cons segment rest ih =>
    rw [walk]
    obtain hmember | ⟨member, hreached, hmember⟩ | ⟨fault, hfails, hmember⟩ :=
      value.member?_cases segment
    · rw [hmember]
      exact .missing
    · obtain ⟨frame, hframe, hvalue⟩ := h
      rw [hmember]
      exact ih ⟨frame, hframe, hvalue.trans hreached⟩
    · rw [hmember]
      exact .failed (h.mayFail hfails)

/-- The member of the first frame that has it is reached; else nothing is found, or something
failed. -/
theorem findMember_cases {scope : Scope} (name : Chars) {frames : List Value}
    (h : ∀ frame ∈ frames, frame ∈ scope.frames) :
    findMember name frames = .ok none
      ∨ (∃ value, scope.Reaches value ∧ findMember name frames = .ok (some value))
      ∨ ∃ fault, scope.MayFail fault ∧ findMember name frames = .error fault := by
  induction frames with
  | nil => exact .inl rfl
  | cons frame rest ih =>
    have hframe : frame ∈ scope.frames := h frame List.mem_cons_self
    rw [findMember]
    obtain hmember | ⟨member, hreached, hmember⟩ | ⟨fault, hfails, hmember⟩ :=
      frame.member?_cases name
    · rw [hmember]
      exact ih fun other hmem => h other (List.mem_cons_of_mem _ hmem)
    · rw [hmember]
      exact .inr (.inl ⟨member, ⟨frame, hframe, hreached⟩, rfl⟩)
    · rw [hmember]
      exact .inr (.inr ⟨fault, ⟨frame, hframe, hfails⟩, rfl⟩)

/-- **Resolving a name.** -/
theorem answered (scope : Scope) (name : Chars) : scope.Answered name (scope.resolve name) := by
  unfold resolve
  split
  · exact .found ⟨scope.innermost, List.mem_cons_self, .self _⟩
  · cases Chars.split '.' name with
    | nil => exact .missing
    | cons first rest =>
      have hframes : ∀ frame ∈ scope.frames, frame ∈ scope.frames := fun _ h => h
      show scope.Answered name (findMember first scope.frames >>= _)
      obtain hfind | ⟨value, hvalue, hfind⟩ | ⟨fault, hfault, hfind⟩ :=
        findMember_cases first hframes
      · rw [hfind]
        exact .missing
      · rw [hfind]
        exact answered_walk name rest hvalue
      · rw [hfind]
        exact .failed hfault

/-- **The value of a name is reached** from the scope. -/
theorem resolve_reaches {scope : Scope} {name : Chars} {value : Value}
    (h : scope.resolve name = .ok value) : scope.Reaches value := by
  have hanswered := scope.answered name
  rw [h] at hanswered
  cases hanswered with
  | found hvalue => exact hvalue

/-- **A name that is not resolved** is unresolved as a whole, or something failed on the way. -/
theorem resolve_error {scope : Scope} {name : Chars} {fault : Fault}
    (h : scope.resolve name = .error fault) : fault = .unresolved name ∨ scope.MayFail fault := by
  have hanswered := scope.answered name
  rw [h] at hanswered
  cases hanswered with
  | missing => exact .inl rfl
  | failed hfault => exact .inr hfault

end Scope

end Mustache
