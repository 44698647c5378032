import Mustache.Proofs.Session.Changes

/-!
# The registry of an environment

What a lookup finds, at any moment of a session: what is given for the call, else the text that was
last registered under the name and not taken away since, else what the environment's own store
answers. The texts given with the environment count as registered first.

`Session.GoesBy` says that an environment goes by certain texts, for all that can be done with it: a
lookup, a rendering of a template that it compiled at any time before, taking a name from the
registry that is not there, and making a store that is used later. `Session.goesBy_after` shows it
for every environment and whatever steps were carried out since it was made, answered or failed.

The stores of the host answer as they do when they are asked. What a store made earlier keeps is the
registry, not the answers of the host.
-/

namespace Mustache

/-! ## What a lookup finds -/

/-- **What is found under a name** with partials given for the call, when these are the texts of the
registry. -/
def lookupGiven (host : HostAnswer) (extra : PartialsArgument) (texts : Chars → Option Chars)
    (own : Option Store) (name : Chars) : Except Fault Chars := do
  let given ← extra.toStore
  layeredAnswer host given (texts name) own name

/-- **An environment of a session goes by these texts** and its own store. -/
structure Session.GoesBy (session : Session) (handle : Nat) (settings : RenderSettings)
    (texts : Chars → Option Chars) (own : Option Store) : Prop where
  /-- A lookup asks what is given for the call, then the texts, then the own store. -/
  lookup {environment name : Chars} {extra : StoreRequest} {argument : PartialsArgument}
    {asking : Session} (hname : session.environmentNames.lookup environment = some handle)
    (hextra : SessionM.partialsOf extra session = (.ok argument, asking)) :
    ((Step.getPartial environment name extra).run session).1
      = (lookupGiven asking.hostAnswer argument texts own name).map .text
  /-- A name without a text cannot be taken from the registry, and then nothing changes. -/
  unknown {environment name : Chars}
    (hname : session.environmentNames.lookup environment = some handle)
    (hmissing : texts name = none) :
    (Step.unregister environment name).run session = (.error (.notRegistered name), session)
      ∧ (Fault.notRegistered name).kind = .key
  /-- What is about no registry leaves the environment alone, also when it fails. -/
  kept {step : Step} (hstep : step.registryChange? = none) :
    (step.run session).2.environments[handle]? = session.environments[handle]?
  /-- A template that the environment compiled, at whatever time, is rendered with these texts. -/
  rendered {compiled : SessionTemplate} (hcompiled : compiled.environment = handle) (data : Data)
    (argument : PartialsArgument) :
    (SessionM.renderTemplate compiled data argument session).1
      = ((do
        let given ← Rendering.lift argument.toStore
        let scope ← Rendering.lift data.orEmpty.toScope
        render settings (fun name => layeredAnswer session.hostAnswer given (texts name) own name)
          compiled.template.document.toNode scope) .fresh).1
  /-- A store that the environment makes now goes by these texts from now on. -/
  snapshot : ∃ entry, session.environments[handle]? = some entry
    ∧ ∀ (extra : PartialsArgument) (store : Store), entry.environment.partials extra = .ok store →
      ∀ (later : List Step) (name : Chars),
        store.fetch (session.after later).hostAnswer name
          = lookupGiven (session.after later).hostAnswer extra texts own name

namespace Environment

/-- A name that is not in the registry cannot be taken from it. -/
theorem unregister_of_missing {environment : Environment} {name : Chars}
    (h : environment.registered.text? name = none) :
    environment.unregister name = .error (.notRegistered name) := by
  unfold unregister Table.hasName
  rw [h]
  rfl

variable {environment : Environment} {texts : Chars → Option Chars}
  (htexts : ∀ name, environment.registered.text? name = texts name)

include htexts

/-- The store that an environment makes goes by the texts of its registry. -/
theorem partials_fetch (host : HostAnswer) (extra : PartialsArgument) (name : Chars) :
    (environment.partials extra >>= fun store => store.fetch host name)
      = lookupGiven host extra texts environment.store name := by
  unfold lookupGiven
  have hstores := environment.partials_coincide extra
  generalize environment.partials extra = made at hstores
  generalize extra.toStore = given at hstores
  cases hstores with
  | ok hanswers =>
    show Store.fetch .. = _
    rw [hanswers, htexts]
    rfl
  | error fault => rfl

/-- A template is rendered with the texts of the registry. -/
theorem renderTemplate_eq (host : HostAnswer) (template : Template) (data : Data)
    (extra : PartialsArgument) :
    environment.renderTemplate host template data extra
      = (do
        let given ← Rendering.lift extra.toStore
        let scope ← Rendering.lift data.orEmpty.toScope
        render environment.renderSettings
          (fun name => layeredAnswer host given (texts name) environment.store name)
          template.document.toNode scope) := by
  refine (environment.partials_coincide extra).lift_bind fun store given hanswers => ?_
  have hfetch : store.fetch host
      = fun name => layeredAnswer host given (texts name) environment.store name := by
    funext name
    rw [hanswers, htexts]
  rw [hfetch]

end Environment

open SessionM

/-- What a rendering within a session ends with. -/
theorem SessionM.renderTemplate_outcome {session : Session} {compiled : SessionTemplate}
    {entry : SessionEnvironment}
    (hentry : session.environments[compiled.environment]? = some entry) (data : Data)
    (argument : PartialsArgument) :
    (SessionM.renderTemplate compiled data argument session).1
      = (entry.environment.renderTemplate session.hostAnswer compiled.template data argument
        .fresh).1 := by
  unfold SessionM.renderTemplate
  rw [bind_run, environmentOf_run, hentry]
  dsimp only
  rw [bind_run, get_run]
  dsimp only
  show ((ofExcept _ : SessionM Chars) _).1 = _
  rw [ofExcept_run]

/-- What a lookup within a session ends with. -/
theorem Step.getPartial_outcome {session asking : Session} {environment name : Chars}
    {extra : StoreRequest} {argument : PartialsArgument} {handle : Nat}
    {entry : SessionEnvironment}
    (hname : session.environmentNames.lookup environment = some handle)
    (hentry : session.environments[handle]? = some entry)
    (hextra : SessionM.partialsOf extra session = (.ok argument, asking)) :
    ((Step.getPartial environment name extra).run session).1
      = (entry.environment.partials argument >>= fun store =>
          store.fetch asking.hostAnswer name).map .text := by
  rw [run, bind_run, named_run, hname]
  dsimp only
  rw [bind_run, environmentOf_run, hentry]
  dsimp only
  rw [bind_run, hextra]
  dsimp only
  rw [bind_run, ofExcept_run]
  cases entry.environment.partials argument with
  | error fault => rfl
  | ok store =>
    dsimp only
    rw [bind_run, get_run]
    show ((do return .text (← ofExcept (store.fetch asking.hostAnswer name)) : SessionM Answer)
      (asking.ask store name).2).1 = (store.fetch asking.hostAnswer name).map .text
    cases store.fetch asking.hostAnswer name <;> rfl

/-- **An environment goes by the texts that the session holds for it.** -/
theorem Session.Holds.goesBy {session : Session} {handle : Nat} {entry : SessionEnvironment}
    {texts : Chars → Option Chars} (h : session.Holds handle entry texts) :
    session.GoesBy handle entry.environment.renderSettings texts entry.environment.store := by
  obtain ⟨registered, hfound, htexts⟩ := h
  have hregistered : ∀ name,
      (entry.environment.holding registered).registered.text? name = texts name := htexts
  constructor
  case lookup =>
    intro environment name extra argument asking hname hextra
    rw [Step.getPartial_outcome hname hfound hextra, Environment.partials_fetch hregistered]
    rfl
  case unknown =>
    intro environment name hname hmissing
    have hrefused : RegistryChange.apply (entry.environment.holding registered)
        (.unregistered name) = .error (.notRegistered name) :=
      Environment.unregister_of_missing ((htexts name).trans hmissing)
    have hrun : (Step.unregister environment name).run
        = changeRegistry environment (.unregistered name) := Step.run_eq_changeRegistry rfl
    rw [hrun, changeRegistry_run hname hfound]
    dsimp only
    rw [hrefused]
    exact ⟨rfl, rfl⟩
  case kept =>
    intro step hstep
    rw [step.environment_kept hstep hfound, hfound]
  case rendered =>
    rintro compiled rfl data argument
    rw [renderTemplate_outcome hfound, Environment.renderTemplate_eq hregistered]
    rfl
  case snapshot =>
    refine ⟨_, hfound, fun extra store hstore later name => ?_⟩
    have hfetch :=
      Environment.partials_fetch hregistered (session.after later).hostAnswer extra name
    rw [hstore] at hfetch
    exact hfetch

/-- The registry of a new environment: what a table gave. -/
def PartialsArgument.registered : PartialsArgument → Table
  | .table entries => entries
  | _ => []

/-- The store behind the registry of a new environment. -/
def PartialsArgument.own? : PartialsArgument → Option Store
  | .store given => some given
  | _ => none

/-- A new environment has of the partials what belongs into the registry, and what belongs
behind. -/
theorem Environment.create_partials {request : SettingsRequest} {surroundings : Surroundings}
    {escaper : Option Escaper} {given : PartialsArgument} {environment : Environment}
    (h : Environment.create request surroundings escaper given = .ok environment) :
    environment.registered = given.registered ∧ environment.store = given.own? := by
  unfold create at h
  cases hsettings : Settings.load request surroundings with
  | error fault =>
    rw [hsettings] at h
    cases h
  | ok settings =>
    rw [hsettings] at h
    cases given with
    | other typeName => cases h
    | _ =>
      cases h
      exact ⟨rfl, rfl⟩

/-- **The registry over a session**: whatever steps were carried out since an environment was made,
it goes by the texts that were given with it and the changes that the steps made, and by its own
store. -/
theorem Session.goesBy_after {request : SettingsRequest} {surroundings : Surroundings}
    {escaper : Option Escaper} {given : PartialsArgument} {entry : SessionEnvironment}
    (hmade : Environment.create request surroundings escaper given = .ok entry.environment)
    {session : Session} {handle : Nat} (hstart : session.environments[handle]? = some entry)
    (steps : List Step) :
    (session.after steps).GoesBy handle entry.environment.renderSettings
      (fun name => textAfter (given.registered.text? name) (session.changes handle steps) name)
      given.own? := by
  obtain ⟨hregistered, hown⟩ := Environment.create_partials hmade
  rw [← hregistered, ← hown]
  have hholds : session.Holds handle entry entry.environment.registered.text? :=
    ⟨entry.environment.registered, hstart, fun _ => rfl⟩
  exact (hholds.after steps).goesBy

/-- A partial given with the environment, registered anew, and another one that was registered and
taken away again, with a template compiled and rendered in between. -/
theorem Session.goesBy_after_interleaved :
    let environment : Environment := ⟨.standard, none, [(['p'], ['A'])], none⟩
    let session : Session :=
      { Session.fresh SettingsFile.read? with
        environments := [⟨environment, true⟩]
        environmentNames := [(['e'], 0)] }
    let steps : List Step :=
      [.compile ['e'] ['t'] "\x7b\x7b>p\x7d\x7d".toList, .register ['e'] ['q'] ['B'],
        .register ['e'] ['p'] ['C'], .renderTemplate ['t'] (.value .null) .nothing,
        .unregister ['e'] ['q']]
    let now := session.after steps
    Environment.create ⟨.null, .null, .null, .null⟩ ⟨[], .mapping []⟩ none
        (.table [(['p'], ['A'])]) = .ok environment
      ∧ session.environments[0]? = some ⟨environment, true⟩
      ∧ ((Step.getPartial ['e'] ['p'] .nothing).run now).1 = .ok (.text ['C'])
      ∧ ((Step.getPartial ['e'] ['p'] (.table [(['p'], ['D'])])).run now).1 = .ok (.text ['D'])
      ∧ ((Step.getPartial ['e'] ['q'] .nothing).run now).1 = .error (.partialNotFound ['q'])
      ∧ (Step.unregister ['e'] ['q']).run now = (.error (.notRegistered ['q']), now) := by
  intro environment session steps now
  have hmade : Environment.create ⟨.null, .null, .null, .null⟩ ⟨[], .mapping []⟩ none
      (.table [(['p'], ['A'])]) = .ok environment := rfl
  have hstart : session.environments[0]? = some ⟨environment, true⟩ := rfl
  have hstands : now.GoesBy 0 _ _ _ := goesBy_after hmade hstart steps
  have hname : now.environmentNames.lookup ['e'] = some 0 := by
    simp only [now, session, steps, environment]
    decide +kernel
  have hp : textAfter (some ['A']) (session.changes 0 steps) ['p'] = some ['C'] := by
    simp only [session, steps, environment]
    decide +kernel
  have hq : textAfter none (session.changes 0 steps) ['q'] = none := by
    simp only [session, steps, environment]
    decide +kernel
  refine ⟨hmade, hstart, ?_, ?_, ?_, (hstands.unknown hname hq).1⟩
  · rw [hstands.lookup hname rfl]
    show (layeredAnswer now.hostAnswer (.table []) (textAfter (some ['A']) _ _) none _).map _ = _
    rw [hp]
    rfl
  · rw [hstands.lookup hname rfl]
    rfl
  · rw [hstands.lookup hname rfl]
    show (layeredAnswer now.hostAnswer (.table []) (textAfter none _ _) none _).map _ = _
    rw [hq]
    rfl

end Mustache
