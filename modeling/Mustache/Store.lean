import Mustache.Fault

/-!
# Stores of partials

A partial is found by name in a **store**. A table holds its texts itself; a host store belongs to
the host, is known here by a handle alone, and answers, or fails, as the host pleases; a chain asks
its stores in turn.

`Store.ask` gives the answer together with the leaves that were asked for it, in order. A store
that does not hold the name says so by `Fault.partialNotFound`, and then a chain goes on to the
next; every other answer, a failure included, ends the search.
-/

namespace Mustache

/-- **Texts by name**, in the order in which the names were first given. -/
abbrev Table := List (Chars × Chars)

namespace Table

/-- The table with a text under a name. A name that is there keeps its place. -/
def insert (name text : Chars) : Table → Table
  | [] => [(name, text)]
  | (other, old) :: rest =>
    if other = name then (name, text) :: rest else (other, old) :: insert name text rest

/-- The table without a name. -/
def erase (name : Chars) (table : Table) : Table := table.filter fun entry => entry.1 ≠ name

/-- The text under a name. -/
def text? (name : Chars) (table : Table) : Option Chars := table.lookup name

/-- The table holds a text under the name. -/
def hasName (name : Chars) (table : Table) : Bool := (table.text? name).isSome

end Table

/-- **A store of partials.** -/
inductive Store where
  | table (entries : Table)
  | host (handle : Nat)
  | chain (stores : List Store)
deriving Inhabited

/-- A store that is no chain. -/
inductive Leaf where
  | table (entries : Table)
  | host (handle : Nat)
deriving DecidableEq, Repr, Inhabited

/-- **What the host's stores answer**: a text, or a failure. -/
abbrev HostAnswer := Nat → Chars → Except Fault Chars

/-- What a store answered, and the leaves that were asked, in order. -/
structure Inquiry where
  outcome : Except Fault Chars
  asked : List Leaf

namespace Leaf

/-- **What a leaf answers.** -/
def answer (host : HostAnswer) (name : Chars) : Leaf → Except Fault Chars
  | .table entries =>
    match entries.text? name with
    | some text => .ok text
    | none => .error (.partialNotFound name)
  | .host handle => host handle name

end Leaf

namespace Store

mutual

/-- **Asks a store for a partial.** -/
def ask (host : HostAnswer) (name : Chars) : Store → Inquiry
  | .table entries => ⟨(Leaf.table entries).answer host name, [.table entries]⟩
  | .host handle => ⟨(Leaf.host handle).answer host name, [.host handle]⟩
  | .chain stores => askFirst host name stores

/-- Asks one store after the other, until one does not say that the name is missing. -/
def askFirst (host : HostAnswer) (name : Chars) : List Store → Inquiry
  | [] => ⟨.error (.partialNotFound name), []⟩
  | store :: rest =>
    let first := store.ask host name
    match first.outcome with
    | .error (.partialNotFound _) =>
      let later := askFirst host name rest
      ⟨later.outcome, first.asked ++ later.asked⟩
    | _ => first

end

/-- **The partial of a name.** -/
def fetch (host : HostAnswer) (store : Store) (name : Chars) : Except Fault Chars :=
  (store.ask host name).outcome

end Store

/-- **What is given where partials belong**: nothing, a table, a store, or a value of some other
type. -/
inductive PartialsArgument where
  | nothing
  | table (entries : Table)
  | store (store : Store)
  | other (typeName : Chars)
deriving Inhabited

/-- **The store that an argument stands for.** Nothing stands for the store that holds nothing. -/
def PartialsArgument.toStore : PartialsArgument → Except Fault Store
  | .nothing => .ok (.table [])
  | .table entries => .ok (.table entries)
  | .store given => .ok given
  | .other typeName => .error (.notAStore typeName)

end Mustache
