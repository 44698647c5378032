import Mathlib.Data.List.Basic
import Mustache.Store

/-!
# Chains of stores

The stores of a chain may be chains themselves. What a chain answers, and whom it asks, hangs on its
**leaves** alone, from left to right (`Store.leaves`): they are asked one after the other as long as
each says that the partial is missing, and the first other answer is the answer of the chain
(`Leaf.Search`). A chain that comes to its end says that the partial of the name asked for is
missing, whatever names its leaves told of.

**The law** (`Store.chain_flattens`): a chain is asked as the chain of its leaves is, which is such
a search. So it makes no difference how chains are nested, and an empty chain or an empty table
among the stores counts for nothing.

A leaf of the host may answer in another way the next time, and asking one leaf may change what
another answers. `Store.askIn` asks a store while its leaves read and change a state, and the law
holds of it too. Leaves that go by the name are a case of this: the state is then the list of those
asked (`Store.askIn_keeping`).
-/

namespace Mustache

/-! ## Leaves -/

/-- The leaf as a store. -/
def Leaf.toStore : Leaf → Store
  | .table entries => .table entries
  | .host handle => .host handle

namespace Store

mutual

/-- **The leaves of a store**, from left to right. -/
def leaves : Store → List Leaf
  | .table entries => [.table entries]
  | .host handle => [.host handle]
  | .chain stores => leavesOf stores

/-- The leaves of stores, one store after the other. -/
def leavesOf : List Store → List Leaf
  | [] => []
  | store :: rest => store.leaves ++ leavesOf rest

end

@[simp]
theorem leavesOf_append (left right : List Store) :
    leavesOf (left ++ right) = leavesOf left ++ leavesOf right := by
  induction left with
  | nil => rfl
  | cons store rest ih => rw [List.cons_append, leavesOf, leavesOf, ih, List.append_assoc]

/-- The leaves of a chain of leaves are these. -/
@[simp]
theorem leavesOf_toStore (leaves : List Leaf) : leavesOf (leaves.map Leaf.toStore) = leaves := by
  induction leaves with
  | nil => rfl
  | cons leaf rest ih =>
    have hleaf : leaf.toStore.leaves = [leaf] := by cases leaf <;> rfl
    rw [List.map_cons, leavesOf, hleaf, ih, List.singleton_append]

/-- A chain inside a chain has its leaves there. -/
theorem leavesOf_chain (before inner after : List Store) :
    leavesOf (before ++ chain inner :: after) = leavesOf (before ++ inner ++ after) := by
  simp [leavesOf, leaves]

end Store

/-! ## Asking in a state -/

section Asking

variable {σ : Type}

/-- **What becomes of asking a leaf**, by the state it is asked in: an answer, and the state
after. -/
abbrev LeafAnswer (σ : Type) := Leaf → StateM σ (Except Fault Chars)

/-- **The first answer, or the next**, where the next store is asked only when the first says that
the partial is missing. -/
def unlessMissingIn (first next : StateM σ (Except Fault Chars)) :
    StateM σ (Except Fault Chars) := do
  match ← first with
  | .error (.partialNotFound _) => next
  | outcome => return outcome

/-- The answer says something else than that the partial is missing. -/
def IsDecided (outcome : Except Fault Chars) : Prop :=
  ∀ missing, outcome ≠ .error (.partialNotFound missing)

theorem missing_or_decided (outcome : Except Fault Chars) :
    (∃ missing, outcome = .error (.partialNotFound missing)) ∨ IsDecided outcome := by
  by_cases h : ∃ missing, outcome = .error (.partialNotFound missing)
  · exact .inl h
  · exact .inr fun missing hmissing => h ⟨missing, hmissing⟩

section UnlessMissing

variable {first next : StateM σ (Except Fault Chars)} {state middle : σ}

/-- The state after the first answer is the one that the next store is asked in. -/
theorem unlessMissingIn_run (first next : StateM σ (Except Fault Chars)) (state : σ) :
    unlessMissingIn first next state
      = match first state with
        | (.error (.partialNotFound _), middle) => next middle
        | answered => answered := by
  show (match (first state).1 with
    | .error (.partialNotFound _) => next
    | outcome => return outcome) (first state).2 = _
  obtain ⟨outcome, middle⟩ := first state
  cases outcome with
  | ok text => rfl
  | error fault => cases fault <;> rfl

theorem unlessMissingIn_of_missing {missing : Chars}
    (h : first state = (.error (.partialNotFound missing), middle)) :
    unlessMissingIn first next state = next middle := by
  rw [unlessMissingIn_run, h]

theorem unlessMissingIn_of_decided {outcome : Except Fault Chars}
    (h : first state = (outcome, middle)) (hdecided : IsDecided outcome) :
    unlessMissingIn first next state = (outcome, middle) := by
  rw [unlessMissingIn_run, h]
  split
  next missing middle heq =>
    cases heq
    exact absurd rfl (hdecided missing)
  · rfl

/-- Passing from answer to answer can be bracketed in any way. -/
theorem unlessMissingIn_assoc (first second third : StateM σ (Except Fault Chars)) :
    unlessMissingIn (unlessMissingIn first second) third
      = unlessMissingIn first (unlessMissingIn second third) := by
  funext state
  cases hfirst : first state with
  | mk outcome middle =>
    rcases missing_or_decided outcome with ⟨missing, rfl⟩ | hdecided
    · have hsecond : unlessMissingIn first second state = second middle :=
        unlessMissingIn_of_missing hfirst
      rw [unlessMissingIn_of_missing hfirst, unlessMissingIn_run _ third, hsecond,
        unlessMissingIn_run]
    · rw [unlessMissingIn_of_decided hfirst hdecided,
        unlessMissingIn_of_decided (unlessMissingIn_of_decided hfirst hdecided) hdecided]

end UnlessMissing

namespace Store

mutual

/-- **Asks a store for a partial**, while its leaves read and change a state. -/
def askIn (answer : LeafAnswer σ) (name : Chars) : Store → StateM σ (Except Fault Chars)
  | .table entries => answer (.table entries)
  | .host handle => answer (.host handle)
  | .chain stores => askFirstIn answer name stores

/-- Asks one store after the other, until one does not say that the name is missing. -/
def askFirstIn (answer : LeafAnswer σ) (name : Chars) :
    List Store → StateM σ (Except Fault Chars)
  | [] => return .error (.partialNotFound name)
  | store :: rest => unlessMissingIn (store.askIn answer name) (askFirstIn answer name rest)

end

end Store

/-- Asks leaves one after the other, until one does not say that the name is missing. -/
def Leaf.askFirstIn (answer : LeafAnswer σ) (name : Chars) :
    List Leaf → StateM σ (Except Fault Chars)
  | [] => return .error (.partialNotFound name)
  | leaf :: rest => unlessMissingIn (answer leaf) (askFirstIn answer name rest)

/-- Leaves in two turns. -/
theorem Leaf.askFirstIn_append (answer : LeafAnswer σ) (name : Chars) (left right : List Leaf) :
    askFirstIn answer name (left ++ right)
      = unlessMissingIn (askFirstIn answer name left) (askFirstIn answer name right) := by
  induction left with
  | nil => rfl
  | cons leaf rest ih =>
    rw [List.cons_append, askFirstIn, askFirstIn, ih, unlessMissingIn_assoc]

namespace Store

mutual

/-- **A store with others behind it** is asked as its leaves are. -/
theorem unlessMissingIn_askIn (answer : LeafAnswer σ) (name : Chars) (behind : List Leaf) :
    ∀ store : Store, unlessMissingIn (store.askIn answer name) (Leaf.askFirstIn answer name behind)
      = Leaf.askFirstIn answer name (store.leaves ++ behind)
  | .table entries | .host handle => rfl
  | .chain stores => by
    rw [askIn, leaves, askFirstIn_eq, Leaf.askFirstIn_append]

/-- Stores one after the other are asked as their leaves are. -/
theorem askFirstIn_eq (answer : LeafAnswer σ) (name : Chars) :
    ∀ stores : List Store,
      askFirstIn answer name stores = Leaf.askFirstIn answer name (leavesOf stores)
  | [] => rfl
  | store :: rest => by
    rw [askFirstIn, leavesOf, askFirstIn_eq answer name rest, unlessMissingIn_askIn]

end

end Store

/-! ## The search -/

/-- **Leaves passed over**: one after the other says that the partial is missing. -/
inductive Leaf.Passed (answer : LeafAnswer σ) : List Leaf → σ → σ → Prop
  | nil (state : σ) : Passed answer [] state state
  | cons {leaf : Leaf} {rest : List Leaf} {missing : Chars} {state middle last : σ}
      (hleaf : answer leaf state = (.error (.partialNotFound missing), middle))
      (hrest : Passed answer rest middle last) : Passed answer (leaf :: rest) state last

/-- **What a search among leaves comes to**, and the state after it. Either all are passed over, and
the partial of the name is missing; or those before some leaf are, and the answer is the one that
the leaf then gives, whatever else it is. The leaves behind it are not asked. -/
inductive Leaf.Search (answer : LeafAnswer σ) (name : Chars) (leaves : List Leaf) (state : σ) :
    Except Fault Chars × σ → Prop
  | nobody {last : σ} (hpassed : Passed answer leaves state last) :
      Search answer name leaves state (.error (.partialNotFound name), last)
  | found {earlier later : List Leaf} {leaf : Leaf} {middle last : σ}
      {outcome : Except Fault Chars} (hleaves : leaves = earlier ++ leaf :: later)
      (hpassed : Passed answer earlier state middle) (hleaf : answer leaf middle = (outcome, last))
      (hdecided : IsDecided outcome) : Search answer name leaves state (outcome, last)

/-- **Leaves asked one after the other are such a search.** -/
theorem Leaf.search_askFirstIn (answer : LeafAnswer σ) (name : Chars) (leaves : List Leaf)
    (state : σ) : Search answer name leaves state (askFirstIn answer name leaves state) := by
  induction leaves generalizing state with
  | nil => exact .nobody (.nil state)
  | cons leaf rest ih =>
    rw [askFirstIn]
    cases hleaf : answer leaf state with
    | mk outcome middle =>
      rcases missing_or_decided outcome with ⟨missing, rfl⟩ | hdecided
      · rw [unlessMissingIn_of_missing hleaf]
        generalize hresult : askFirstIn answer name rest middle = result
        have hsearch := ih middle
        rw [hresult] at hsearch
        cases hsearch with
        | nobody hpassed => exact .nobody (.cons hleaf hpassed)
        | found hleaves hpassed hfound hdecided =>
          subst hleaves
          exact .found rfl (.cons hleaf hpassed) hfound hdecided
      · rw [unlessMissingIn_of_decided hleaf hdecided]
        exact .found rfl (.nil state) hleaf hdecided

end Asking

/-! ## Leaves that go by the name -/

namespace Leaf

variable (host : HostAnswer) (name : Chars)

/-- The leaf says that the partial is missing. -/
def Misses (leaf : Leaf) : Prop :=
  ∃ missing, leaf.answer host name = .error (.partialNotFound missing)

/-- Leaves that go by the name, while a list is kept of those asked, of the ones that count. -/
def keeping (counts : Leaf → Bool) : LeafAnswer (List Leaf) := fun leaf asked =>
  (leaf.answer host name, asked ++ [leaf].filter counts)

/-- **What a search comes to among leaves that go by the name**, and which were asked. -/
inductive Finds (leaves : List Leaf) : Inquiry → Prop
  | nobody (hpassed : ∀ leaf ∈ leaves, leaf.Misses host name) :
      Finds leaves ⟨.error (.partialNotFound name), leaves⟩
  | found {earlier later : List Leaf} {leaf : Leaf} (hleaves : leaves = earlier ++ leaf :: later)
      (hpassed : ∀ leaf ∈ earlier, leaf.Misses host name)
      (hdecided : IsDecided (leaf.answer host name)) :
      Finds leaves ⟨leaf.answer host name, earlier ++ [leaf]⟩

variable {host name}

/-- Leaves that are passed over miss, and those that count are kept in the list. -/
theorem Passed.of_keeping {counts : Leaf → Bool} {leaves asked last : List Leaf}
    (h : Passed (keeping host name counts) leaves asked last) :
    (∀ leaf ∈ leaves, leaf.Misses host name) ∧ last = asked ++ leaves.filter counts := by
  induction h with
  | nil asked =>
    refine ⟨?_, (List.append_nil asked).symm⟩
    intro leaf hleaf
    cases hleaf
  | cons hleaf _ ih =>
    obtain ⟨hmisses, hlast⟩ := ih
    obtain ⟨hanswer, rfl⟩ := Prod.mk.inj hleaf
    refine ⟨?_, ?_⟩
    · intro other hother
      rcases List.mem_cons.mp hother with rfl | hrest
      · exact ⟨_, hanswer⟩
      · exact hmisses other hrest
    · rw [hlast, List.append_assoc, ← List.filter_append, List.singleton_append]

/-- Leaves are asked from the left on. -/
theorem Finds.asked_fromLeft {leaves : List Leaf} {inquiry : Inquiry}
    (h : Finds host name leaves inquiry) : inquiry.asked <+: leaves := by
  cases h with
  | nobody _ => exact List.prefix_refl leaves
  | @found earlier later leaf hleaves _ _ =>
    refine ⟨later, ?_⟩
    rw [hleaves, List.append_assoc, List.singleton_append]

/-- **A search that keeps the list of all** comes to what the search comes to. -/
theorem Search.of_keeping {leaves : List Leaf} {result : Except Fault Chars × List Leaf}
    (h : Search (keeping host name fun _ => true) name leaves [] result) :
    Finds host name leaves ⟨result.1, result.2⟩ := by
  cases h with
  | nobody hpassed =>
    obtain ⟨hmisses, rfl⟩ := hpassed.of_keeping
    rw [List.nil_append, List.filter_true]
    exact .nobody hmisses
  | found hleaves hpassed hleaf hdecided =>
    obtain ⟨hmisses, rfl⟩ := hpassed.of_keeping
    obtain ⟨rfl, rfl⟩ := Prod.mk.inj hleaf
    rw [List.nil_append, List.filter_true, List.filter_true]
    exact .found hleaves hmisses hdecided

end Leaf

namespace Store

section Keeping

variable (host : HostAnswer) (name : Chars) (counts : Leaf → Bool)

mutual

/-- **Asking a store by the name** is asking it while the list is kept. -/
theorem askIn_keeping (asked : List Leaf) :
    ∀ store : Store, store.askIn (Leaf.keeping host name counts) name asked
      = ((store.ask host name).outcome, asked ++ (store.ask host name).asked.filter counts)
  | .table _ | .host _ => rfl
  | .chain stores => askFirstIn_keeping asked stores

/-- Asking stores one after the other by the name is so too. -/
theorem askFirstIn_keeping (asked : List Leaf) :
    ∀ stores : List Store, askFirstIn (Leaf.keeping host name counts) name stores asked
      = ((askFirst host name stores).outcome,
        asked ++ (askFirst host name stores).asked.filter counts)
  | [] => by
    rw [askFirst, List.filter_nil, List.append_nil]
    rfl
  | store :: rest => by
    have hstore := askIn_keeping asked store
    rw [askFirstIn, askFirst]
    rcases missing_or_decided (store.ask host name).outcome with ⟨missing, hmissing⟩ | hdecided
    · rw [hmissing] at hstore
      rw [unlessMissingIn_of_missing hstore, askFirstIn_keeping _ rest]
      simp only [hmissing, List.filter_append, List.append_assoc]
    · rw [unlessMissingIn_of_decided hstore hdecided]
      dsimp only
      split
      next missing hmissing => exact absurd hmissing (hdecided missing)
      · rfl

end

/-- What is kept while a store is asked is its answer, and those asked that count. -/
theorem ask_of_askIn {left right : Store}
    (h : left.askIn (Leaf.keeping host name counts) name
      = right.askIn (Leaf.keeping host name counts) name) :
    (left.ask host name).outcome = (right.ask host name).outcome
      ∧ (left.ask host name).asked.filter counts = (right.ask host name).asked.filter counts := by
  have hnone := congrFun h []
  rw [askIn_keeping, askIn_keeping, List.nil_append, List.nil_append] at hnone
  exact Prod.mk.inj hnone

end Keeping

end Store

/-! ## Leaves that hold nothing -/

/-- The leaf is a table without a text. -/
def Leaf.isBlank : Leaf → Bool
  | .table [] => true
  | _ => false

/-- Leaves of which only those of the host read and change the state. -/
def Leaf.answerIn {σ : Type} (host : Nat → Chars → StateM σ (Except Fault Chars)) (name : Chars) :
    LeafAnswer σ
  | .table entries =>
    return match entries.text? name with
      | some text => .ok text
      | none => .error (.partialNotFound name)
  | .host handle => host handle name

/-- The leaves of stores without those that hold nothing. -/
def Store.heldLeaves (stores : List Store) : List Leaf :=
  (leavesOf stores).filter fun leaf => !leaf.isBlank

/-- **Blank leaves may be left out**, when they are passed over without a trace. -/
theorem Leaf.askFirstIn_filter {σ : Type} {answer : LeafAnswer σ} {name : Chars}
    (h : ∀ state, ∃ missing,
      answer (.table []) state = (.error (.partialNotFound missing), state))
    (leaves : List Leaf) :
    askFirstIn answer name (leaves.filter fun leaf => !leaf.isBlank)
      = askFirstIn answer name leaves := by
  induction leaves with
  | nil => rfl
  | cons leaf rest ih =>
    cases hblank : leaf.isBlank with
    | false => rw [List.filter_cons_of_pos (by simp [hblank]), askFirstIn, askFirstIn, ih]
    | true =>
      rw [List.filter_cons_of_neg (by simp [hblank]), askFirstIn, ih]
      have hleaf : leaf = .table [] := by
        unfold isBlank at hblank
        split at hblank
        · rfl
        · cases hblank
      subst hleaf
      funext state
      obtain ⟨missing, hmissing⟩ := h state
      exact (unlessMissingIn_of_missing hmissing).symm

namespace Store

/-! ## The law -/

/-- **Stores that nobody can tell apart by asking**: they give the same answer and ask the same
leaves in the same order, also while the leaves read and change a state. -/
structure AskedAlike (left right : Store) : Prop where
  ask (host : HostAnswer) (name : Chars) : left.ask host name = right.ask host name
  askIn {σ : Type} (answer : LeafAnswer σ) (name : Chars) :
    left.askIn answer name = right.askIn answer name

/-- **Chains with the same leaves are asked alike.** -/
theorem AskedAlike.of_leaves {left right : List Store} (h : leavesOf left = leavesOf right) :
    AskedAlike (chain left) (chain right) := by
  have hin : ∀ {σ : Type} (answer : LeafAnswer σ) (name : Chars),
      (chain left).askIn answer name = (chain right).askIn answer name := by
    intro σ answer name
    rw [Store.askIn, Store.askIn, askFirstIn_eq, askFirstIn_eq, h]
  refine ⟨?_, hin⟩
  intro host name
  obtain ⟨houtcome, hasked⟩ := ask_of_askIn host name (fun _ => true) (hin _ name)
  rw [List.filter_true, List.filter_true] at hasked
  calc (chain left).ask host name
      = ⟨((chain left).ask host name).outcome, ((chain left).ask host name).asked⟩ := rfl
    _ = ⟨((chain right).ask host name).outcome, ((chain right).ask host name).asked⟩ := by
      rw [houtcome, hasked]

/-- **A chain is a search among its leaves.** -/
theorem search_askIn {σ : Type} (answer : LeafAnswer σ) (name : Chars) (stores : List Store)
    (state : σ) :
    Leaf.Search answer name (leavesOf stores) state ((chain stores).askIn answer name state) := by
  rw [askIn, askFirstIn_eq]
  exact Leaf.search_askFirstIn answer name (leavesOf stores) state

/-- A chain is a search among its leaves where these go by the name. -/
theorem finds_ask (host : HostAnswer) (name : Chars) (stores : List Store) :
    Leaf.Finds host name (leavesOf stores) ((chain stores).ask host name) := by
  have hsearch :=
    (search_askIn (Leaf.keeping host name fun _ => true) name stores []).of_keeping
  rw [askIn_keeping, List.nil_append, List.filter_true] at hsearch
  exact hsearch

/-- **A chain is asked as the chain of those leaves that hold something**, by any leaves that pass
over a table without a text and leave no trace of it. -/
theorem askIn_heldLeaves {σ : Type} {answer : LeafAnswer σ} {name : Chars}
    (h : ∀ state, ∃ missing,
      answer (.table []) state = (.error (.partialNotFound missing), state))
    (stores : List Store) :
    (chain stores).askIn answer name
      = (chain ((heldLeaves stores).map Leaf.toStore)).askIn answer name := by
  rw [askIn, askIn, askFirstIn_eq, askFirstIn_eq, leavesOf_toStore, heldLeaves,
    Leaf.askFirstIn_filter h]

/-- Among leaves that hold something, all that are asked do. -/
theorem filter_asked_heldLeaves (host : HostAnswer) (name : Chars) (stores : List Store) :
    ((chain ((heldLeaves stores).map Leaf.toStore)).ask host name).asked.filter
        (fun leaf => !leaf.isBlank)
      = ((chain ((heldLeaves stores).map Leaf.toStore)).ask host name).asked := by
  have hasked := (finds_ask host name ((heldLeaves stores).map Leaf.toStore)).asked_fromLeft
  rw [leavesOf_toStore] at hasked
  refine List.filter_eq_self.mpr ?_
  intro leaf hleaf
  exact (List.mem_filter.mp (hasked.subset hleaf)).2

/-- **Chained stores flatten.** A chain is asked as the chain of its leaves from left to right, and
that is a search: leaf after leaf as long as each says that the partial is missing, whether the
leaves go by the name or change as they are asked. A chain inside a chain may be written out in its
place, so that nesting is associative and an empty chain is nothing; and a table without a text,
wherever it stands, is asked in vain. -/
theorem chain_flattens (stores : List Store) :
    AskedAlike (chain stores) (chain ((leavesOf stores).map Leaf.toStore))
      ∧ (∀ host name, Leaf.Finds host name (leavesOf stores) ((chain stores).ask host name))
      ∧ (∀ {σ : Type} (answer : LeafAnswer σ) (name : Chars) (state : σ),
        Leaf.Search answer name (leavesOf stores) state ((chain stores).askIn answer name state))
      ∧ (∀ before after, AskedAlike (chain (before ++ chain stores :: after))
        (chain (before ++ stores ++ after)))
      ∧ (∀ first second third, AskedAlike (chain [chain [first, second], third])
        (chain [first, chain [second, third]]))
      ∧ let held := chain ((heldLeaves stores).map Leaf.toStore)
        (∀ host name,
          ((chain stores).ask host name).outcome = (held.ask host name).outcome
            ∧ ((chain stores).ask host name).asked.filter (fun leaf => !leaf.isBlank)
              = (held.ask host name).asked)
        ∧ ∀ {σ : Type} (host : Nat → Chars → StateM σ (Except Fault Chars)) (name : Chars),
          (chain stores).askIn (Leaf.answerIn host name) name
            = held.askIn (Leaf.answerIn host name) name := by
  refine ⟨?_, ?_, ?_, ?_, ?_, ?_, ?_⟩
  · exact .of_leaves (leavesOf_toStore (leavesOf stores)).symm
  · intro host name
    exact finds_ask host name stores
  · intro σ answer name state
    exact search_askIn answer name stores state
  · intro before after
    exact .of_leaves (leavesOf_chain before stores after)
  · intro first second third
    refine .of_leaves ?_
    simp only [leavesOf, leaves, List.append_nil, List.append_assoc]
  · intro host name
    have hblank : ∀ asked, ∃ missing,
        Leaf.keeping host name (fun leaf => !leaf.isBlank) (.table []) asked
          = (.error (.partialNotFound missing), asked) :=
      fun asked => ⟨name, Prod.ext rfl (List.append_nil asked)⟩
    obtain ⟨houtcome, hasked⟩ := ask_of_askIn host name _ (askIn_heldLeaves hblank stores)
    exact ⟨houtcome, hasked.trans (filter_asked_heldLeaves host name stores)⟩
  · intro σ host name
    exact askIn_heldLeaves (fun _ => ⟨name, rfl⟩) stores

end Store

end Mustache
