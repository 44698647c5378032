import Mathlib.Data.List.Forall2
import Mustache.Proofs.Outcome
import Mustache.Proofs.Value.Reach

/-!
# Values that look alike

Two values look alike when they differ in nothing but blocked attributes of host objects: those
whose names begin with two underscores. Such an attribute may be there or not, may have another
value, or may fail. Everything else is the same, and the texts of the objects are (`Value.Alike`).
One blocked attribute is an exception: the class of an object decides what it is wrapped as, so that
objects that look alike pass for values that look alike.

Each thing that a template can do with a value gives the same for values that look alike, or values
that look alike again: its texts, whether it is safe, what it is wrapped as (`Alike.reflect`),
whether it has a member (`Alike.has_eq`), the member (`Alike.lookup`), and its items
(`Alike.items`). So does the resolution of a name in scopes that look alike (`Scope.Alike.resolve`).
Only `readMember` and `guise` ever read an attribute. The former reads no blocked one, and the
latter only the class.
-/

namespace Mustache

namespace Value

/-- **The values look alike**: they are the same but for blocked attributes of host objects,
anywhere inside them. An attribute that is not blocked has values that look alike, or is missing
from both objects, or fails with the same fault. So does the class of the objects, if they name
one. -/
inductive Alike : Value → Value → Prop
  | scalar (simple : Scalar) : Alike (.scalar simple) (.scalar simple)
  | list {items items' : List Value} (h : List.Forall₂ Alike items items') :
      Alike (.list items) (.list items')
  | tuple {items items' : List Value} (h : List.Forall₂ Alike items items') :
      Alike (.tuple items) (.tuple items')
  | range (progression : Progression) : Alike (.range progression) (.range progression)
  | mapping {entries entries' : List (Value × Value)}
      (h : List.Forall₂ (Prod.RProd Alike Alike) entries entries') :
      Alike (.mapping entries) (.mapping entries')
  | octets (bytes : List UInt8) {attributes attributes' : List (Chars × Except Fault Value)}
      (h : ∀ name, isBlockedName name = false →
        Coincide Alike (readAttribute name attributes) (readAttribute name attributes')) :
      Alike (.octets bytes attributes) (.octets bytes attributes')
  | object {host host' : Host} {attributes attributes' : List (Chars × Except Fault Value)}
      (htext : host.text = host'.text) (hshown : host.shown = host'.shown)
      (hclass : Option.Rel (Coincide Alike) (attributes.lookup classAttribute)
        (attributes'.lookup classAttribute))
      (h : ∀ name, isBlockedName name = false →
        Coincide Alike (readAttribute name attributes) (readAttribute name attributes')) :
      Alike (.object host attributes) (.object host' attributes')
  | hostMapping {host host' : Host} (htext : host.text = host'.text)
      (hshown : host.shown = host'.shown) (holds : Chars → Except Fault Bool)
      {gives gives' : Chars → Except Fault Value}
      (h : ∀ name, Coincide Alike (gives name) (gives' name)) :
      Alike (.hostMapping host holds gives) (.hostMapping host' holds gives')
  | reflected {value value' : Value} (h : Alike value value') :
      Alike (.reflected value) (.reflected value')
  | absent : Alike .absent .absent

namespace Alike

/-! ## What kind of value it is, and its texts -/

/-- Without their wrapping, they look alike. -/
theorem bare {value value' : Value} (h : value.Alike value') : value.bare.Alike value'.bare := by
  cases h with
  | reflected h => exact h.bare
  | scalar simple => exact .scalar simple
  | list h => exact .list h
  | tuple h => exact .tuple h
  | range progression => exact .range progression
  | mapping h => exact .mapping h
  | octets bytes h => exact .octets bytes h
  | object htext hshown hclass h => exact .object htext hshown hclass h
  | hostMapping htext hshown holds h => exact .hostMapping htext hshown holds h
  | absent => exact .absent
termination_by sizeOf value

/-- **They are wrapped as values that look alike**, or the class of neither can be read. -/
theorem reflect {value value' : Value} (h : value.Alike value') :
    Coincide Alike value.reflect value'.reflect := by
  cases h with
  | reflected h => exact .ok h.bare
  | @object host host' attributes attributes' htext hshown hclass h =>
    have hself := Alike.object htext hshown hclass h
    unfold Value.reflect guise
    dsimp only
    generalize attributes.lookup classAttribute = answer?,
      attributes'.lookup classAttribute = answer?' at hclass ⊢
    cases hclass with
    | none => exact .ok hself
    | some hanswer =>
      cases hanswer with
      | ok hpassed => exact .ok hpassed.bare
      | error fault => exact .error fault
  | scalar simple => exact .ok (.scalar simple)
  | list h => exact .ok (.list h)
  | tuple h => exact .ok (.tuple h)
  | range progression => exact .ok (.range progression)
  | mapping h => exact .ok (.mapping h)
  | octets bytes h => exact .ok (.octets bytes h)
  | hostMapping htext hshown holds h => exact .ok (.hostMapping htext hshown holds h)
  | absent => exact .ok .absent

theorem variant_eq {value value' : Value} (h : value.Alike value') :
    value.variant = value'.variant := by
  cases h with
  | reflected h => exact h.variant_eq
  | _ => rfl
termination_by sizeOf value

theorem showsVariant_eq {value value' : Value} (h : value.Alike value') :
    value.showsVariant = value'.showsVariant := by
  cases h <;> rfl

theorem string?_eq {value value' : Value} (h : value.Alike value') :
    value.string? = value'.string? := by
  cases h <;> rfl

theorem isSafe_eq {value value' : Value} (h : value.Alike value') :
    value.isSafe = value'.isSafe := by
  cases h with
  | reflected h => exact h.isSafe_eq
  | _ => rfl
termination_by sizeOf value

mutual

/-- **Their quoted forms are the same.** -/
theorem quoted_eq : ∀ {value value' : Value}, value.Alike value' → value.quoted = value'.quoted
  | .scalar _, _, h | .range _, _, h | .octets .., _, h | .absent, _, h => by
    cases h
    rfl
  | .object .., _, h => by
    cases h with
    | object _ hshown => rwa [quoted, quoted]
  | .hostMapping .., _, h => by
    cases h with
    | hostMapping _ hshown => rwa [quoted, quoted]
  | .list items, _, h => by
    cases h with
    | list h => rw [quoted, quoted, quotedItems_eq h]
  | .tuple [], _, h => by
    cases h with
    | tuple h =>
      cases h
      rfl
  | .tuple [item], _, h => by
    cases h with
    | tuple h =>
      obtain ⟨item', _, hitem, hnil, rfl⟩ := List.forall₂_cons_left_iff.mp h
      cases hnil
      rw [quoted, quoted, hitem.quoted_eq]
  | .tuple (item :: next :: rest), _, h => by
    cases h with
    | tuple h =>
      have hitems := quotedItems_eq h
      obtain ⟨item', _, -, hrest, rfl⟩ := List.forall₂_cons_left_iff.mp h
      obtain ⟨next', rest', -, -, rfl⟩ := List.forall₂_cons_left_iff.mp hrest
      simp only [quoted, hitems]
  | .mapping entries, _, h => by
    cases h with
    | mapping h => rw [quoted, quoted, quotedEntries_eq h]
  | .reflected value, _, h => by
    cases h with
    | reflected h => rw [quoted, quoted, h.showsVariant_eq, h.variant_eq, h.quoted_eq]

theorem quotedItems_eq : ∀ {items items' : List Value}, List.Forall₂ Alike items items' →
    quotedItems items = quotedItems items'
  | [], _, h => by
    cases h
    rfl
  | [item], _, h => by
    obtain ⟨item', _, hitem, hnil, rfl⟩ := List.forall₂_cons_left_iff.mp h
    cases hnil
    rw [quotedItems, quotedItems, hitem.quoted_eq]
  | item :: next :: rest, _, h => by
    obtain ⟨item', _, hitem, hrest, rfl⟩ := List.forall₂_cons_left_iff.mp h
    obtain ⟨next', rest', -, -, rfl⟩ := List.forall₂_cons_left_iff.mp hrest
    rw [quotedItems, quotedItems, hitem.quoted_eq, quotedItems_eq hrest]

theorem quotedEntries_eq : ∀ {entries entries' : List (Value × Value)},
    List.Forall₂ (Prod.RProd Alike Alike) entries entries' →
    quotedEntries entries = quotedEntries entries'
  | [], _, h => by
    cases h
    rfl
  | [(key, item)], _, h => by
    obtain ⟨_, _, ⟨hkey, hitem⟩, hnil, rfl⟩ := List.forall₂_cons_left_iff.mp h
    cases hnil
    rw [quotedEntries, quotedEntries, hkey.quoted_eq, hitem.quoted_eq]
  | (key, item) :: next :: rest, _, h => by
    obtain ⟨_, _, ⟨hkey, hitem⟩, hrest, rfl⟩ := List.forall₂_cons_left_iff.mp h
    obtain ⟨next', rest', -, -, rfl⟩ := List.forall₂_cons_left_iff.mp hrest
    rw [quotedEntries, quotedEntries, hkey.quoted_eq, hitem.quoted_eq, quotedEntries_eq hrest]

end

/-- **Their texts are the same.** -/
theorem text_eq {value value' : Value} (h : value.Alike value') :
    value.text = value'.text := by
  have hquoted := h.quoted_eq
  cases h with
  | reflected h => exact h.text_eq
  | scalar | absent => rfl
  | object htext => exact htext
  | hostMapping htext => exact htext
  | list | tuple | range | mapping | octets => exact hquoted
termination_by sizeOf value

/-! ## Members and items -/

/-- They have an entry of the name with values that look alike, or both have none. -/
theorem entry? (name : Chars) {entries entries' : List (Value × Value)}
    (h : List.Forall₂ (Prod.RProd Alike Alike) entries entries') :
    Option.Rel Alike (Value.entry? name entries) (Value.entry? name entries') := by
  induction h with
  | nil => exact .none
  | cons hentry _ ih =>
    obtain ⟨hkey, hitem⟩ := hentry
    rw [Value.entry?, Value.entry?, hkey.string?_eq]
    split
    · exact .some hitem
    · exact ih

/-- They have an entry of the name, or both have none. -/
theorem any_entry_eq (name : Chars) {entries entries' : List (Value × Value)}
    (h : List.Forall₂ (Prod.RProd Alike Alike) entries entries') :
    (entries.any fun entry => entry.1.string? = some name)
      = entries'.any fun entry => entry.1.string? = some name := by
  induction h with
  | nil => rfl
  | cons hentry _ ih =>
    obtain ⟨hkey, -⟩ := hentry
    rw [List.any_cons, List.any_cons, hkey.string?_eq, ih]

/-- **No template reads a blocked attribute**: reading a member of objects that look alike gives
values that look alike, or the same fault. -/
theorem readMember (name : Chars) {attributes attributes' : List (Chars × Except Fault Value)}
    (h : ∀ name, isBlockedName name = false →
      Coincide Alike (readAttribute name attributes) (readAttribute name attributes')) :
    Coincide Alike (Value.readMember name attributes) (Value.readMember name attributes') := by
  unfold Value.readMember
  cases hblocked : isBlockedName name with
  | true => exact .error _
  | false =>
    rw [if_neg Bool.false_ne_true, if_neg Bool.false_ne_true]
    have hread := (h name hblocked).bind fun _ _ hvalue => hvalue.reflect
    generalize readAttribute name attributes >>= Value.reflect = answer,
      readAttribute name attributes' >>= Value.reflect = answer' at hread
    cases hread with
    | ok hvalue => exact .ok hvalue
    | error fault =>
      show Coincide Alike (if fault.meansAbsent then _ else _) (if fault.meansAbsent then _ else _)
      split <;> exact .error _

/-- **They have a member of the name, or both have none**, or asking fails with the same fault. -/
theorem has_eq (name : Chars) {value value' : Value} (h : value.Alike value') :
    value.has name = value'.has name := by
  cases h with
  | reflected h =>
    rw [has, has]
    exact h.has_eq name
  | scalar | range | hostMapping | absent => rfl
  | list h | tuple h => rw [has, has, h.length_eq]
  | mapping h => rw [has, has, any_entry_eq name h]
  | @octets bytes attributes attributes' h | @object _ _ attributes attributes' _ _ _ h =>
    have hmember := readMember name h
    rw [has, has]
    generalize Value.readMember name attributes = answer,
      Value.readMember name attributes' = answer' at hmember ⊢
    cases hmember <;> rfl
termination_by sizeOf value

/-- At each index there are items that look alike, or none. -/
theorem getElem? {items items' : List Value} (h : List.Forall₂ Alike items items')
    (index : Nat) : Option.Rel Alike items[index]? items'[index]? := by
  induction h generalizing index with
  | nil => exact .none
  | cons hitem _ ih =>
    cases index with
    | zero => exact .some hitem
    | succ index => exact ih index

theorem itemOf {items items' : List Value} (h : List.Forall₂ Alike items items')
    (index : Option Nat) :
    Option.Rel Alike (index.bind (items[·]?)) (index.bind (items'[·]?)) := by
  cases index with
  | none => exact .none
  | some index => exact getElem? h index

/-- **The members of a name look alike**, or there is none in either, or looking it up fails with
the same fault. -/
theorem lookup (name : Chars) {value value' : Value} (h : value.Alike value') :
    Coincide Alike (value.lookup name) (value'.lookup name) := by
  cases h with
  | reflected h =>
    rw [Value.lookup, Value.lookup]
    exact h.lookup name
  | scalar | absent => exact .error _
  | range progression =>
    rw [Value.lookup]
    refine Coincide.bind (.refl (indexOf? name progression.size)) ?_
    rintro index _ rfl
    cases index with
    | none => exact .error _
    | some index => exact .ok (.scalar _)
  | @list items items' h | @tuple items items' h =>
    rw [Value.lookup, Value.lookup, h.length_eq]
    refine Coincide.bind (.refl _) ?_
    rintro index _ rfl
    have hitem := itemOf h index
    generalize index.bind (items[·]?) = found, index.bind (items'[·]?) = found' at hitem ⊢
    cases hitem with
    | none => exact .error _
    | some hitem => exact hitem.reflect
  | @mapping entries entries' h =>
    have hitem := entry? name h
    rw [Value.lookup, Value.lookup]
    generalize Value.entry? name entries = found, Value.entry? name entries' = found' at hitem ⊢
    cases hitem with
    | none => exact .error _
    | some hitem => exact hitem.reflect
  | octets bytes h | object _ _ _ h =>
    rw [Value.lookup, Value.lookup]
    exact readMember name h
  | hostMapping _ _ _ h =>
    rw [Value.lookup, Value.lookup]
    exact (h name).bind fun _ _ hitem => hitem.reflect
termination_by sizeOf value

/-- **The members that were asked for look alike.** -/
theorem member? (name : Chars) {value value' : Value} (h : value.Alike value') :
    Coincide (Option.Rel Alike) (value.member? name) (value'.member? name) := by
  unfold Value.member?
  rw [h.has_eq name]
  refine Coincide.bind (.refl _) ?_
  rintro held _ rfl
  cases held with
  | true => exact (h.lookup name).bind fun _ _ hmember => .ok (.some hmember)
  | false => exact .ok .none

/-- Items that look alike are wrapped as values that do. -/
theorem mapM_reflect {items items' : List Value} (h : List.Forall₂ Alike items items') :
    Coincide (List.Forall₂ Alike) (items.mapM Value.reflect) (items'.mapM Value.reflect) := by
  induction h with
  | nil => exact .ok .nil
  | cons hitem _ ih =>
    rw [List.mapM_cons, List.mapM_cons]
    refine hitem.reflect.bind fun _ _ hpassed => ?_
    exact ih.bind fun _ _ hrest => .ok (.cons hpassed hrest)

/-- **The items of a block look alike**, one by one. -/
theorem items {value value' : Value} (h : value.Alike value') :
    Coincide (List.Forall₂ Alike) value.items value'.items := by
  cases h with
  | reflected h => exact h.items
  | scalar simple =>
    rw [Value.items]
    split
    · exact .ok (.cons (.scalar simple) .nil)
    · exact .ok .nil
  | range progression =>
    refine .ok (List.forall₂_same.mpr fun item hitem => ?_)
    obtain ⟨n, -, rfl⟩ := List.mem_map.mp hitem
    exact .scalar _
  | list h | tuple h =>
    rw [Value.items, Value.items]
    exact mapM_reflect h
  | mapping h => exact .ok (.cons (.mapping h) .nil)
  | octets bytes h => exact .ok (.cons (.octets bytes h) .nil)
  | object htext hshown hclass h => exact .ok (.cons (.object htext hshown hclass h) .nil)
  | hostMapping htext hshown holds h => exact .ok (.cons (.hostMapping htext hshown holds h) .nil)
  | absent => exact .ok .nil
termination_by sizeOf value

/-! ## The same but for blocked attributes -/

/-- Reading attributes that are found alike gives the like. -/
theorem readAttribute_of_lookup {name : Chars}
    {attributes attributes' : List (Chars × Except Fault Value)}
    (h : Option.Rel (Coincide Alike) (attributes.lookup name) (attributes'.lookup name)) :
    Coincide Alike (readAttribute name attributes) (readAttribute name attributes') := by
  unfold readAttribute
  generalize attributes.lookup name = answer?, attributes'.lookup name = answer?' at h ⊢
  cases h with
  | none => exact .error _
  | some hanswer => exact hanswer

mutual

/-- **A value looks like itself.** -/
theorem refl : ∀ value : Value, value.Alike value
  | .scalar simple => .scalar simple
  | .list items => .list (refl_items items)
  | .tuple items => .tuple (refl_items items)
  | .range progression => .range progression
  | .mapping entries => .mapping (refl_entries entries)
  | .octets bytes attributes =>
    .octets bytes fun name _ => readAttribute_of_lookup (refl_lookup name attributes)
  | .object _ attributes =>
    .object rfl rfl (refl_lookup classAttribute attributes) fun name _ =>
      readAttribute_of_lookup (refl_lookup name attributes)
  | .hostMapping _ holds gives => .hostMapping rfl rfl holds fun name => refl_answer (gives name)
  | .reflected value => .reflected (refl value)
  | .absent => .absent
termination_by structural value => value

/-- Items look like themselves. -/
theorem refl_items : ∀ items : List Value, List.Forall₂ Alike items items
  | [] => .nil
  | item :: rest => .cons (refl item) (refl_items rest)
termination_by structural items => items

/-- Entries look like themselves. -/
theorem refl_entries :
    ∀ entries : List (Value × Value), List.Forall₂ (Prod.RProd Alike Alike) entries entries
  | [] => .nil
  | (key, item) :: rest => .cons ⟨refl key, refl item⟩ (refl_entries rest)
termination_by structural entries => entries

/-- What is found at a name looks like itself. -/
theorem refl_lookup (name : Chars) : ∀ attributes : List (Chars × Except Fault Value),
    Option.Rel (Coincide Alike) (attributes.lookup name) (attributes.lookup name)
  | [] => .none
  | (other, answer) :: rest => by
    have hanswer := refl_answer answer
    have hrest := refl_lookup name rest
    rw [List.lookup_cons]
    split
    · exact .some hanswer
    · exact hrest
termination_by structural attributes => attributes

/-- An answer looks like itself. -/
theorem refl_answer : ∀ answer : Except Fault Value, Coincide Alike answer answer
  | .ok value => .ok (refl value)
  | .error fault => .error fault
termination_by structural answer => answer

end

end Alike

end Value

/-! ## Scopes -/

namespace Scope

/-- **The scopes look alike**, frame by frame. -/
def Alike (scope scope' : Scope) : Prop := List.Forall₂ Value.Alike scope.frames scope'.frames

namespace Alike

variable {scope scope' : Scope}

theorem root {value value' : Value} (h : value.Alike value') :
    Coincide Alike (root value) (root value') := by
  unfold Scope.root
  have hreflect := h.reflect
  generalize value.reflect = outcome, value'.reflect = outcome' at hreflect ⊢
  cases hreflect with
  | ok hpassed => exact .ok (.cons hpassed .nil)
  | error fault => exact .error fault

theorem innermost (h : Alike scope scope') : scope.innermost.Alike scope'.innermost := by
  cases h with
  | cons hframe _ => exact hframe

/-- One more frame inside. -/
theorem extend (h : Alike scope scope') {value value' : Value} (hvalue : value.Alike value') :
    Alike (scope.extend value) (scope'.extend value') := .cons hvalue h

/-- The member of the first frame that has it. -/
theorem findMember (name : Chars) {frames frames' : List Value}
    (h : List.Forall₂ Value.Alike frames frames') :
    Coincide (Option.Rel Value.Alike) (Scope.findMember name frames)
      (Scope.findMember name frames') := by
  induction h with
  | nil => exact .ok .none
  | cons hframe _ ih =>
    rw [Scope.findMember, Scope.findMember]
    refine (hframe.member? name).bind fun _ _ hmember => ?_
    cases hmember with
    | none => exact ih
    | some hmember => exact .ok (.some hmember)

/-- The segments of a path, from values that look alike. -/
theorem walk (name : Chars) (segments : List Chars) {value value' : Value}
    (h : value.Alike value') :
    Coincide Value.Alike (Scope.walk name segments value) (Scope.walk name segments value') := by
  induction segments generalizing value value' with
  | nil => exact .ok h
  | cons segment rest ih =>
    rw [Scope.walk, Scope.walk]
    refine (h.member? segment).bind fun _ _ hmember => ?_
    cases hmember with
    | none => exact .error _
    | some hmember => exact ih hmember

/-- **The values of a name look alike**, or it is resolved in neither scope, for the same fault. -/
theorem resolve (h : Alike scope scope') (name : Chars) :
    Coincide Value.Alike (scope.resolve name) (scope'.resolve name) := by
  unfold Scope.resolve
  by_cases hdot : name = ['.']
  · rw [if_pos hdot, if_pos hdot]
    exact .ok h.innermost
  · rw [if_neg hdot, if_neg hdot]
    cases Chars.split '.' name with
    | nil => exact .error _
    | cons first rest =>
      refine (findMember first h).bind fun found found' hfound => ?_
      cases hfound with
      | none => exact .error _
      | some hvalue => exact walk name rest hvalue

end Alike

end Scope

end Mustache
