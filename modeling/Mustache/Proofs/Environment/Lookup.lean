import Mustache.Environment
import Mustache.Proofs.Outcome

/-!
# Looking a partial up

For one rendering an environment makes a chain: what is given for the rendering alone, the registry,
and the store of the environment. This module says what such a chain answers, without the chain:
`layeredAnswer` is a definition by the three layers, and `Environment.partials_coincide` shows that
the store an environment makes answers so, whatever is given and whatever the host's stores do, a
failure included.

Only the fault that says that a partial is missing lets the next layer answer. It does so whatever
name it tells of; the name that the lookup fails with in the end is the one asked for.
-/

namespace Mustache

/-! ## Tables -/

namespace Table

theorem text?_cons (key old name : Chars) (rest : Table) :
    text? name ((key, old) :: rest) = if name = key then some old else rest.text? name := by
  unfold text?
  rw [List.lookup_cons]
  by_cases h : name = key
  · simp [h]
  · simp [h, beq_false_of_ne h]

/-- A text that was put into a table is found under its name, and nothing else is changed. -/
theorem text?_insert (name text other : Chars) (table : Table) :
    (table.insert name text).text? other
      = if other = name then some text else table.text? other := by
  induction table with
  | nil => exact text?_cons name text other []
  | cons entry rest ih =>
    obtain ⟨key, old⟩ := entry
    unfold insert
    by_cases hkey : key = name
    · subst hkey
      rw [if_pos rfl, text?_cons, text?_cons]
      by_cases h : other = key <;> simp [h]
    · rw [if_neg hkey, text?_cons, text?_cons, ih]
      by_cases h : other = key
      · subst h
        simp [hkey]
      · simp [h]

/-- A name that was taken from a table is not found, and nothing else is changed. -/
theorem text?_erase (name other : Chars) (table : Table) :
    (table.erase name).text? other = if other = name then none else table.text? other := by
  induction table with
  | nil =>
    by_cases h : other = name <;> simp [h] <;> rfl
  | cons entry rest ih =>
    obtain ⟨key, old⟩ := entry
    unfold erase at ih ⊢
    by_cases hkey : key = name
    · subst hkey
      rw [List.filter_cons_of_neg (by simp), text?_cons, ih]
      by_cases h : other = key <;> simp [h]
    · rw [List.filter_cons_of_pos (by simpa using hkey), text?_cons, text?_cons, ih]
      by_cases h : other = key
      · subst h
        simp [hkey]
      · simp [h]

/-- A name that no entry has is not in the table. -/
theorem text?_eq_none {table : Table} {name : Chars} (h : ∀ entry ∈ table, entry.1 ≠ name) :
    table.text? name = none := by
  apply List.lookup_eq_none_iff.mpr
  intro entry hentry
  exact bne_iff_ne.mpr (h entry hentry).symm

end Table

/-! ## Chains -/

/-- **The first answer, or the next**: the next counts when the first says that the partial is
missing. -/
def unlessMissing (first next : Except Fault Chars) : Except Fault Chars :=
  match first with
  | .error (.partialNotFound _) => next
  | _ => first

namespace Store

variable {host : HostAnswer} {name : Chars}

/-- **A table answers with the text under the name**, and the next store only where it has none. -/
theorem unlessMissing_fetch_table (entries : Table) (next : Except Fault Chars) :
    unlessMissing ((table entries).fetch host name) next
      = match entries.text? name with
        | some text => .ok text
        | none => next := by
  unfold fetch ask Leaf.answer
  dsimp only
  cases entries.text? name <;> rfl

/-- A chain without stores holds nothing. -/
@[simp]
theorem fetch_chain_nil : (chain []).fetch host name = .error (.partialNotFound name) := by
  unfold fetch ask askFirst
  rfl

/-- **A chain answers with its first store**, unless that says that the partial is missing. -/
theorem fetch_chain_cons (store : Store) (rest : List Store) :
    (chain (store :: rest)).fetch host name
      = unlessMissing (store.fetch host name) ((chain rest).fetch host name) := by
  unfold fetch
  rw [ask, askFirst, ask]
  unfold unlessMissing
  generalize store.ask host name = first
  obtain ⟨outcome, asked⟩ := first
  cases outcome with
  | ok text => rfl
  | error fault => cases fault <;> rfl

end Store

/-! ## Layers -/

/-- Computations that coincide go on alike, where what follows them is the same. -/
theorem Coincide.lift_bind {α β γ : Type} {R : α → β → Prop} {left : Except Fault α}
    {right : Except Fault β} {f : α → Rendering γ} {g : β → Rendering γ}
    (h : Coincide R left right) (hnext : ∀ a b, R a b → f a = g b) :
    Rendering.lift left >>= f = Rendering.lift right >>= g := by
  cases h with
  | ok h => exact hnext _ _ h
  | error fault => rfl

/-- **What is found under a name**: what the store given for the rendering answers, else the text
registered, else what the environment's own store answers, else nothing. -/
def layeredAnswer (host : HostAnswer) (given : Store) (registered : Option Chars)
    (own : Option Store) (name : Chars) : Except Fault Chars :=
  unlessMissing (given.fetch host name) <|
    match registered with
    | some text => .ok text
    | none =>
      match own with
      | some store => unlessMissing (store.fetch host name) (.error (.partialNotFound name))
      | none => .error (.partialNotFound name)

namespace Environment

/-- The registry and the store behind it answer as if nothing were given. -/
theorem fetch_behind (environment : Environment) (host : HostAnswer) (name : Chars) :
    (Store.chain (.table environment.registered :: environment.store.toList)).fetch host name
      = layeredAnswer host (.table []) (environment.registered.text? name) environment.store
        name := by
  rw [Store.fetch_chain_cons, Store.unlessMissing_fetch_table]
  unfold layeredAnswer
  rw [Store.unlessMissing_fetch_table]
  cases environment.registered.text? name with
  | some text => rfl
  | none =>
    cases environment.store with
    | none => exact Store.fetch_chain_nil
    | some store =>
      show (Store.chain [store]).fetch host name = _
      rw [Store.fetch_chain_cons, Store.fetch_chain_nil]
      rfl

/-- **The store of an environment answers by its three layers**, and there is no such store for the
same reason for which there is none for the argument. -/
theorem partials_coincide (environment : Environment) (extra : PartialsArgument) :
    Coincide
      (fun store given => ∀ host name, store.fetch host name
        = layeredAnswer host given (environment.registered.text? name) environment.store name)
      (environment.partials extra) extra.toStore := by
  have hgiven : ∀ (given : Store) (host : HostAnswer) (name : Chars),
      (Store.chain (given :: .table environment.registered :: environment.store.toList)).fetch
          host name
        = layeredAnswer host given (environment.registered.text? name) environment.store name := by
    intro given host name
    rw [Store.fetch_chain_cons, fetch_behind]
    rfl
  cases extra with
  | nothing => exact .ok environment.fetch_behind
  | table entries => exact .ok (hgiven _)
  | store given => exact .ok (hgiven given)
  | other typeName => exact .error _

end Environment

end Mustache
