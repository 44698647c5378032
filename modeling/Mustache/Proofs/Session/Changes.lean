import Mustache.Proofs.Environment.Lookup
import Mustache.Proofs.Session.Frame

/-!
# The changes of a registry

Partials are registered with an environment of a session, and taken from its registry again, among
all the other things that are done. This module says what is in the registry then, without
carrying the registry along: the text of a name is that of the latest change of the name
(`textAfter`), where the changes are those that the steps make (`Session.changes`), each by the name
that the environment has at its moment.

That a session **holds** an environment with certain texts (`Session.Holds`) is the invariant. One
step makes its change to the texts, if it makes any (`Session.Holds.step`), and steps one after the
other make theirs (`Session.Holds.after`). A step that finds nothing to take from the registry fails
and changes nothing; it counts as a change all the same, as the name has no text before it nor after
it.
-/

namespace Mustache

/-! ## Changes -/

namespace RegistryChange

/-- The name that the change is about. -/
def name : RegistryChange → Chars
  | .registered name _ => name
  | .unregistered name => name

/-- The text that the name has from then on. -/
def text? : RegistryChange → Option Chars
  | .registered _ text => some text
  | .unregistered _ => none

/-- The environment with the change made. -/
def apply (environment : Environment) : RegistryChange → Except Fault Environment
  | .registered name text => .ok (environment.register name text)
  | .unregistered name => environment.unregister name

end RegistryChange

/-- **The text of a name after changes**, given in order: that of the latest change of the name, and
the one from before where none is about the name. -/
def textAfter (before : Option Chars) (changes : List RegistryChange) (name : Chars) :
    Option Chars :=
  match changes.reverse.find? fun change => change.name = name with
  | some change => change.text?
  | none => before

/-- Changes can be made in two turns. -/
theorem textAfter_append (before : Option Chars) (first later : List RegistryChange)
    (name : Chars) :
    textAfter before (first ++ later) name
      = textAfter (textAfter before first name) later name := by
  unfold textAfter
  rw [List.reverse_append, List.find?_append]
  cases later.reverse.find? fun change => change.name = name <;> rfl

/-- A single change is seen under its name. -/
theorem textAfter_singleton (before : Option Chars) (change : RegistryChange) (name : Chars) :
    textAfter before [change] name = if name = change.name then change.text? else before := by
  unfold textAfter
  by_cases h : name = change.name
  · simp [h]
  · simp [h, Ne.symm h]

namespace Session

/-- **The session after steps.** -/
def after (session : Session) : List Step → Session
  | [] => session
  | step :: rest => after (step.run session).2 rest

/-- The change that a step makes to the registry of an environment, if its name stands for that
environment at the moment. -/
def change? (session : Session) (handle : Nat) (step : Step) : Option RegistryChange :=
  match step.registryChange? with
  | some (environment, change) =>
    if session.environmentNames.lookup environment = some handle then some change else none
  | none => none

/-- **The changes that steps make** to the registry of an environment, in order. -/
def changes (session : Session) (handle : Nat) : List Step → List RegistryChange
  | [] => []
  | step :: rest =>
    (session.change? handle step).toList ++ changes (step.run session).2 handle rest

end Session

/-! ## One change -/

/-- The environment with another registry. -/
def Environment.holding (environment : Environment) (registered : Table) : Environment :=
  { environment with registered }

@[simp]
theorem Environment.registered_holding (environment : Environment) (registered : Table) :
    (environment.holding registered).registered = registered := rfl

@[simp]
theorem Environment.holding_holding (environment : Environment) (registered later : Table) :
    (environment.holding registered).holding later = environment.holding later := rfl

/-- **A change is seen in the texts**, or there is nothing to take from the registry and the texts
are what they would be after it. -/
theorem RegistryChange.apply_ends (environment : Environment) (change : RegistryChange) :
    Ends
      (fun changed : Environment => changed = environment.holding changed.registered
        ∧ ∀ name, changed.registered.text? name
          = textAfter (environment.registered.text? name) [change] name)
      (fun fault => fault = .notRegistered change.name
        ∧ ∀ name, environment.registered.text? name
          = textAfter (environment.registered.text? name) [change] name)
      (change.apply environment) := by
  cases change with
  | registered given text =>
    refine ⟨rfl, fun name => ?_⟩
    rw [textAfter_singleton]
    exact Table.text?_insert given text name environment.registered
  | unregistered given =>
    rw [apply, Environment.unregister]
    split
    · refine ⟨rfl, fun name => ?_⟩
      rw [textAfter_singleton]
      exact Table.text?_erase given name environment.registered
    next hmissing =>
      refine ⟨rfl, fun name => ?_⟩
      rw [textAfter_singleton]
      split
      next hname =>
        rw [hname]
        show environment.registered.text? given = none
        simpa [Table.hasName] using hmissing
      · rfl

namespace SessionM

/-- Changes the registry of an environment, by its name. -/
def changeRegistry (environment : Chars) (change : RegistryChange) : SessionM Answer := do
  let handle ← named (·.environmentNames) environment
  let entry ← environmentOf handle
  let changed ← ofExcept (change.apply entry.environment)
  putEnvironment handle changed
  return .nothing

variable {session : Session} {environment : Chars} {change : RegistryChange} {handle : Nat}
  {entry : SessionEnvironment}

/-- What becomes of an environment that is there. -/
theorem changeRegistry_run (hname : session.environmentNames.lookup environment = some handle)
    (hentry : session.environments[handle]? = some entry) :
    changeRegistry environment change session
      = match change.apply entry.environment with
        | .ok changed => (.ok .nothing, { session with
            environments := session.environments.modify handle fun old =>
              { old with environment := changed } })
        | .error fault => (.error fault, session) := by
  unfold changeRegistry
  rw [bind_run, named_run, hname]
  dsimp only
  rw [bind_run, environmentOf_run, hentry]
  dsimp only
  rw [bind_run, ofExcept_run]
  cases change.apply entry.environment <;> rfl

/-- An environment of another name stays what it is. -/
theorem changeRegistry_other (hname : session.environmentNames.lookup environment ≠ some handle) :
    (changeRegistry environment change session).2.environments[handle]?
      = session.environments[handle]? := by
  cases hlookup : session.environmentNames.lookup environment with
  | none =>
    unfold changeRegistry
    rw [bind_run, named_run, hlookup]
  | some other =>
    have hne : other ≠ handle := fun h => hname (by rw [hlookup, h])
    cases hentry : session.environments[other]? with
    | none =>
      unfold changeRegistry
      rw [bind_run, named_run, hlookup]
      dsimp only
      rw [bind_run, environmentOf_run, hentry]
    | some entry =>
      rw [changeRegistry_run hlookup hentry]
      cases change.apply entry.environment with
      | ok changed => exact List.getElem?_modify_ne _ _ hne
      | error fault => rfl

end SessionM

/-- A step that is about a registry changes it. -/
theorem Step.run_eq_changeRegistry {step : Step} {environment : Chars} {change : RegistryChange}
    (h : step.registryChange? = some (environment, change)) :
    step.run = SessionM.changeRegistry environment change := by
  cases step with
  | register | unregister =>
    cases h
    rfl
  | _ => cases h

/-! ## Steps one after the other -/

/-- **The session holds the environment**, as it was but for its registry, in which these are the
texts. -/
def Session.Holds (session : Session) (handle : Nat) (entry : SessionEnvironment)
    (texts : Chars → Option Chars) : Prop :=
  ∃ registered : Table,
    session.environments[handle]?
        = some { entry with environment := entry.environment.holding registered }
      ∧ ∀ name, registered.text? name = texts name

namespace Session.Holds

variable {session : Session} {handle : Nat} {entry : SessionEnvironment}
  {texts : Chars → Option Chars}

/-- **One step** makes its change to the texts, if it makes any. -/
theorem step (h : session.Holds handle entry texts) (step : Step) :
    (step.run session).2.Holds handle entry fun name =>
      textAfter (texts name) (session.change? handle step).toList name := by
  obtain ⟨registered, hfound, htexts⟩ := h
  unfold change?
  cases hstep : step.registryChange? with
  | none => exact ⟨registered, step.environment_kept hstep hfound, htexts⟩
  | some about =>
    obtain ⟨environment, change⟩ := about
    rw [Step.run_eq_changeRegistry hstep]
    dsimp only
    by_cases hname : session.environmentNames.lookup environment = some handle
    · rw [if_pos hname, SessionM.changeRegistry_run hname hfound]
      have happly := change.apply_ends (entry.environment.holding registered)
      simp only [Environment.registered_holding, Environment.holding_holding, htexts] at happly
      cases hchanged : change.apply (entry.environment.holding registered) with
      | ok changed =>
        rw [hchanged] at happly
        obtain ⟨hsame, hafter⟩ := happly
        refine ⟨changed.registered, ?_, hafter⟩
        dsimp only
        rw [List.getElem?_modify_eq, hfound, ← hsame]
        rfl
      | error fault =>
        rw [hchanged] at happly
        refine ⟨registered, hfound, fun name => ?_⟩
        rw [htexts name]
        exact happly.2 name
    · rw [if_neg hname]
      refine ⟨registered, ?_, htexts⟩
      rw [SessionM.changeRegistry_other hname, hfound]

/-- **Steps one after the other** make their changes. -/
theorem after (h : session.Holds handle entry texts) (steps : List Step) :
    (session.after steps).Holds handle entry fun name =>
      textAfter (texts name) (session.changes handle steps) name := by
  induction steps generalizing session texts with
  | nil => exact h
  | cons step rest ih =>
    obtain ⟨registered, hfound, htexts⟩ := ih (h.step step)
    refine ⟨registered, hfound, fun name => ?_⟩
    exact (htexts name).trans (textAfter_append ..).symm

end Session.Holds

end Mustache
