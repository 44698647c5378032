import Mustache.Session.Step

/-!
# What a session keeps

An environment of a session stays what it is, under its handle, whatever is done, until a partial is
registered or taken from the registry. A computation **keeps the environments** (`Keeps`) when those
that were there stand at the beginning of those that are there afterwards: it may make new ones.
That is said of one session at a time, of the outcome whatever it is, and is kept by doing one thing
after the other.

Each operation of a session keeps the environments, and so does each step that is not about a
registry (`Step.run_keeps`), also one that fails half-way.
-/

namespace Mustache

namespace Session

/-! ## Records -/

/-- Asking a store leaves the environments alone. -/
@[simp]
theorem environments_ask (session : Session) (store : Store) (name : Chars) :
    (session.ask store name).2.environments = session.environments := by
  unfold ask
  dsimp only
  generalize (store.ask session.hostAnswer name).asked.filterMap hostHandle? = handles
  induction handles generalizing session with
  | nil => rfl
  | cons handle rest ih => exact ih (session.recordAsked name handle)

@[simp]
theorem environments_recordEvent (store : Store) (session : Session) (event : RenderEvent) :
    (recordEvent store session event).environments = session.environments := by
  cases event with
  | asked name => exact session.environments_ask store name
  | _ => rfl

/-- What a rendering tells leaves the environments alone. -/
@[simp]
theorem environments_recordEvents (session : Session) (store : Store)
    (journal : List RenderEvent) :
    (session.recordEvents store journal).environments = session.environments := by
  unfold recordEvents
  induction journal.reverse generalizing session with
  | nil => rfl
  | cons event rest ih => rw [List.foldl_cons, ih, environments_recordEvent]

@[simp]
theorem environments_recordSpan (session : Session) (recorded : Bool) (activity : Activity)
    (length : Nat) (fault : Option FaultKind) :
    (session.recordSpan recorded activity length fault).environments = session.environments := by
  unfold recordSpan
  split <;> rfl

end Session

namespace SessionM

/-- One thing after the other, unless the first fails. -/
theorem bind_run {α β : Type} (first : SessionM α) (next : α → SessionM β) (session : Session) :
    (first >>= next) session
      = match first session with
        | (.ok a, after) => next a after
        | (.error fault, after) => (.error fault, after) := by
  show (match first session with | (outcome, after) => ExceptT.bindCont next outcome after) = _
  rcases first session with ⟨outcome, after⟩
  cases outcome <;> rfl

@[simp]
theorem get_run (session : Session) : (get : SessionM Session) session = (.ok session, session) :=
  rfl

@[simp]
theorem ofExcept_run {α : Type} (outcome : Except Fault α) (session : Session) :
    (ofExcept outcome : SessionM α) session = (outcome, session) := by
  cases outcome <;> rfl

/-- The thing of a name is there, or it is a fault. -/
theorem named_run {α : Type} (names : Session → Names α) (name : Chars) (session : Session) :
    named names name session
      = match (names session).lookup name with
        | some thing => (.ok thing, session)
        | none => (.error (.noMember name), session) := by
  unfold named
  rw [bind_run, get_run]
  dsimp only
  cases (names session).lookup name <;> rfl

theorem environmentOf_run (handle : Nat) (session : Session) :
    environmentOf handle session
      = match session.environments[handle]? with
        | some entry => (.ok entry, session)
        | none => (.error (.noMember []), session) := by
  unfold environmentOf
  rw [bind_run, get_run]
  dsimp only
  cases session.environments[handle]? <;> rfl

/-- **The computation keeps the environments** of the session: it only adds to them. -/
def Keeps {α : Type} (session : Session) (computation : SessionM α) : Prop :=
  session.environments <+: (computation session).2.environments

namespace Keeps

variable {α β : Type} {session : Session}

theorem of_eq {computation : SessionM α}
    (h : (computation session).2.environments = session.environments) :
    Keeps session computation := by
  unfold Keeps
  exact h ▸ List.prefix_rfl

theorem pure (a : α) : Keeps session (pure a) := of_eq rfl

theorem throw (fault : Fault) : Keeps session (throw fault : SessionM α) := of_eq rfl

theorem ofExcept (outcome : Except Fault α) : Keeps session (ofExcept outcome : SessionM α) := by
  cases outcome <;> exact of_eq rfl

theorem get_bind {next : Session → SessionM β} (h : Keeps session (next session)) :
    Keeps session (get >>= next) := h

theorem set {new : Session} (h : session.environments <+: new.environments) :
    Keeps session (set new : SessionM Unit) := h

theorem modify {change : Session → Session}
    (h : session.environments <+: (change session).environments) :
    Keeps session (modify change : SessionM Unit) := h

/-- One thing after the other. -/
theorem bind {first : SessionM α} {next : α → SessionM β} (h : Keeps session first)
    (hnext : ∀ a after, Keeps after (next a)) : Keeps session (first >>= next) := by
  unfold Keeps at h ⊢
  rw [bind_run]
  rcases hfirst : first session with ⟨outcome, after⟩
  rw [hfirst] at h
  cases outcome with
  | ok a => exact h.trans (hnext a after)
  | error fault => exact h

end Keeps

open Keeps

/-! ## The operations -/

variable {session : Session}

theorem keeps_named {α : Type} (names : Session → Names α) (name : Chars) :
    Keeps session (named names name) := by
  apply get_bind
  split
  · exact pure _
  · exact throw _

theorem keeps_addHost (store : HostStore) : Keeps session (addHost store) :=
  .get_bind (.bind (.modify List.prefix_rfl) fun _ _ => .pure _)

mutual

theorem keeps_partialsOf (session : Session) :
    (request : StoreRequest) → Keeps session (partialsOf request)
  | .nothing => .pure _
  | .table _ => .pure _
  | .named name => .bind (keeps_named (·.stores) name) fun _ _ => .pure _
  | .host store => .bind (keeps_addHost store) fun _ _ => .pure _
  | .chain requests => .bind (keeps_storesOf session requests) fun _ _ => .pure _
  | .other _ => .pure _

theorem keeps_storesOf (session : Session) :
    (requests : List StoreRequest) → Keeps session (storesOf requests)
  | [] => .pure _
  | request :: rest =>
    .bind (keeps_partialsOf session request) fun _ _ =>
      .bind (.ofExcept _) fun _ after =>
        .bind (keeps_storesOf after rest) fun _ _ => .pure _

end

theorem keeps_dataOf (request : DataRequest) : Keeps session (dataOf request) := by
  cases request with
  | value given => exact .pure _
  | named name => exact .bind (keeps_named _ name) fun _ _ => .pure _

theorem keeps_environmentOf (handle : Nat) : Keeps session (environmentOf handle) := by
  apply get_bind
  split
  · exact pure _
  · exact throw _

theorem keeps_findFile (path : Chars) : Keeps session (findFile path) := by
  apply get_bind
  split <;> exact pure _

theorem keeps_surroundingsAt (directory : Option Chars) :
    Keeps session (surroundingsAt directory) :=
  .get_bind (.bind (keeps_findFile _) fun _ _ => .ofExcept _)

/-- A new environment comes after those that are there. -/
theorem keeps_addEnvironment (environment : Environment) (recorded : Bool) :
    Keeps session (addEnvironment environment recorded) :=
  .get_bind (.bind (.modify (List.prefix_append _ _)) fun _ _ => .pure _)

theorem keeps_createEnvironment (request : SettingsRequest) (escaper : Option Escaper)
    (partials : StoreRequest) (directory : Option Chars) (recorded : Bool) :
    Keeps session (createEnvironment request escaper partials directory recorded) :=
  .bind (keeps_partialsOf session partials) fun _ _ =>
    .bind (keeps_surroundingsAt directory) fun _ _ =>
      .bind (.ofExcept _) fun _ _ => keeps_addEnvironment _ recorded

theorem keeps_defaultEnvironment : Keeps session defaultEnvironment := by
  apply get_bind
  split
  · exact pure _
  · exact .bind (keeps_createEnvironment ..) fun _ _ => .bind (.modify List.prefix_rfl) fun _ _ =>
      .pure _

theorem keeps_compile (handle : Nat) (source : Chars) :
    Keeps session (SessionM.compile handle source) := by
  refine .bind (keeps_environmentOf handle) fun entry after => ?_
  refine .bind (.modify (by simp)) fun _ _ => ?_
  exact .bind (.ofExcept _) fun _ _ => .bind (.modify List.prefix_rfl) fun _ _ => .pure _

theorem keeps_renderTemplate (compiled : SessionTemplate) (data : Data)
    (partials : PartialsArgument) :
    Keeps session (SessionM.renderTemplate compiled data partials) := by
  refine .bind (keeps_environmentOf _) fun entry after => ?_
  apply get_bind
  exact .bind (.set (by simp)) fun _ _ => .ofExcept _

theorem keeps_renderSource (handle : Nat) (source : Chars) (data : DataRequest)
    (partials : StoreRequest) : Keeps session (renderSource handle source data partials) :=
  .bind (keeps_dataOf data) fun _ after =>
    .bind (keeps_partialsOf after partials) fun _ _ =>
      .bind (keeps_compile handle source) fun _ _ => keeps_renderTemplate ..

theorem keeps_createRenderer (request : RendererRequest) (partials : StoreRequest) :
    Keeps session (createRenderer request partials) :=
  .bind (keeps_partialsOf session partials) fun _ _ =>
    .bind (.ofExcept _) fun _ _ => .bind (.ofExcept _) fun _ _ => .pure _

theorem keeps_renderWith (name : Chars) (node : Node) (data : DataRequest) :
    Keeps session (renderWith name node data) := by
  refine .bind (keeps_named _ name) fun renderer _ => ?_
  refine .bind (keeps_dataOf data) fun _ _ => .bind (.ofExcept _) fun _ after => ?_
  apply get_bind
  exact .bind (.set (by simp)) fun _ _ => .ofExcept _

end SessionM

/-! ## The steps -/

/-- **A change of a registry.** -/
inductive RegistryChange where
  | registered (name text : Chars)
  | unregistered (name : Chars)

namespace Step

open SessionM

variable {session : Session}

theorem keeps_choose (name : Chars) (asked : Value) (surroundings : Surroundings) :
    Keeps session (choose name asked surroundings) := by
  refine .bind ?_ fun _ _ => .bind (.ofExcept _) fun _ _ => .pure _
  unfold settingOf
  split
  · exact .pure _
  · exact .throw _

theorem keeps_tableOf (wording : Chars → Chars) (name : Chars) :
    Keeps session (tableOf wording name) := by
  refine .bind (keeps_named _ name) fun store _ => ?_
  split
  · exact .pure _
  · exact .throw _

theorem keeps_hostOf (name : Chars) : Keeps session (hostOf name) := by
  refine .bind (keeps_named _ name) fun store _ => ?_
  split
  · exact .pure _
  · exact .throw _

/-- What a store answers is recorded first, and then answered or failed with. -/
theorem keeps_ask (session : Session) (store : Store) (name : Chars) :
    Keeps session (do
      set (session.ask store name).2
      return .text (← ofExcept (session.ask store name).1) : SessionM Answer) :=
  .bind (.set (by simp)) fun _ _ => .bind (.ofExcept _) fun _ _ => .pure _

/-- The change of a registry that a step is about, and the name of the environment. -/
def registryChange? : Step → Option (Chars × RegistryChange)
  | .register environment name text => some (environment, .registered name text)
  | .unregister environment name => some (environment, .unregistered name)
  | _ => none

/-- **A step that is not about a registry keeps the environments**, whether it answers or fails. -/
theorem run_keeps {step : Step} (h : step.registryChange? = none) (session : Session) :
    Keeps session step.run := by
  cases step with
  | register | unregister => cases h
  | setVariables | writeFile | createScanner =>
    exact .bind (.modify List.prefix_rfl) fun _ _ => .pure _
  | takeMessages | takeSpans =>
    exact .get_bind (.bind (.set List.prefix_rfl) fun _ _ => .pure _)
  | createEnvironment =>
    exact .bind (keeps_createEnvironment ..) fun handle _ =>
      .bind (.modify List.prefix_rfl) fun _ _ =>
        .bind (keeps_environmentOf handle) fun _ _ => .pure _
  | getPartial environment name extra =>
    refine .bind (keeps_named _ environment) fun handle _ => ?_
    refine .bind (keeps_environmentOf handle) fun entry after => ?_
    refine .bind (keeps_partialsOf after extra) fun argument _ => ?_
    exact .bind (.ofExcept _) fun store after => .get_bind (keeps_ask after store name)
  | render environment source data partials =>
    exact .bind (keeps_named _ environment) fun handle _ =>
      .bind (keeps_renderSource handle ..) fun _ _ => .pure _
  | compile environment name source =>
    exact .bind (keeps_named _ environment) fun handle _ =>
      .bind (keeps_compile handle source) fun _ _ =>
        .bind (.modify List.prefix_rfl) fun _ _ => .pure _
  | renderTemplate template data partials =>
    exact .bind (keeps_named _ template) fun compiled _ =>
      .bind (keeps_dataOf data) fun _ after =>
        .bind (keeps_partialsOf after partials) fun _ _ =>
          .bind (keeps_renderTemplate ..) fun _ _ => .pure _
  | renderDefault source data partials =>
    exact .bind (keeps_dataOf data) fun _ after =>
      .bind (keeps_partialsOf after partials) fun _ _ =>
        .bind keeps_defaultEnvironment fun handle _ =>
          .bind (keeps_compile handle source) fun _ _ =>
            .bind (keeps_renderTemplate ..) fun _ _ => .pure _
  | compileDefault name source =>
    exact .bind keeps_defaultEnvironment fun handle _ =>
      .bind (keeps_compile handle source) fun _ _ =>
        .bind (.modify List.prefix_rfl) fun _ _ => .pure _
  | loadSetting => exact .get_bind (keeps_choose ..)
  | loadSettingFromFile =>
    exact .bind (keeps_surroundingsAt _) fun _ _ => keeps_choose ..
  | createStore name request =>
    exact .bind (keeps_partialsOf session request) fun _ _ =>
      .bind (.ofExcept _) fun _ _ => .bind (.modify List.prefix_rfl) fun _ _ => .pure _
  | storeGet store name =>
    exact .bind (keeps_named _ store) fun found after => .get_bind (keeps_ask after found name)
  | storeItem store name =>
    refine .bind (keeps_tableOf ..) fun entries _ => ?_
    split
    · exact .pure _
    · exact .throw _
  | storeHas => exact .bind (keeps_tableOf ..) fun _ _ => .pure _
  | storeState =>
    exact .bind (keeps_tableOf ..) fun _ _ => .bind (.ofExcept _) fun _ _ => .pure _
  | storeSet =>
    exact .bind (keeps_hostOf _) fun _ _ => .bind (.modify List.prefix_rfl) fun _ _ => .pure _
  | storeCalls =>
    exact .bind (keeps_hostOf _) fun _ _ =>
      .get_bind (.bind (.set List.prefix_rfl) fun _ _ => .pure _)
  | createRenderer =>
    exact .bind (keeps_createRenderer ..) fun _ _ =>
      .bind (.modify List.prefix_rfl) fun _ _ => .pure _
  | renderWith renderer subject data =>
    cases subject with
    | node node => exact .bind (.pure _) fun _ _ => .bind (keeps_renderWith ..) fun _ _ => .pure _
    | source source =>
      exact .bind (.ofExcept _) fun _ _ => .bind (.pure _) fun _ _ =>
        .bind (keeps_renderWith ..) fun _ _ => .pure _
  | rendererState => exact .bind (keeps_named _ _) fun _ _ => .pure _
  | createScope name data =>
    exact .bind (keeps_dataOf data) fun _ _ => .bind (.ofExcept _) fun _ _ =>
      .bind (.ofExcept _) fun _ _ => .bind (.modify List.prefix_rfl) fun _ _ => .pure _
  | extend scope =>
    exact .bind (keeps_named _ scope) fun _ _ => .bind (.ofExcept _) fun _ _ =>
      .bind (.ofExcept _) fun _ _ => .bind (.modify List.prefix_rfl) fun _ _ => .pure _
  | resolve scope =>
    exact .bind (keeps_named _ scope) fun _ _ =>
      .bind (.ofExcept _) fun _ _ => .bind (.ofExcept _) fun _ _ => .pure _
  | resolveExtend scope =>
    exact .bind (keeps_named _ scope) fun _ _ => .bind (.ofExcept _) fun _ _ =>
      .bind (.ofExcept _) fun _ _ => .bind (.modify List.prefix_rfl) fun _ _ => .pure _
  | moveScanner =>
    exact .get_bind (.bind (.ofExcept _) fun _ _ =>
      .bind (.modify List.prefix_rfl) fun _ _ => .bind (.ofExcept _) fun _ _ => .pure _)
  | refused fault => exact .throw fault

/-- **Only registering changes a registry**: whatever else is done, and however it ends, an
environment stays what it is. -/
theorem environment_kept {step : Step} (h : step.registryChange? = none) {handle : Nat}
    {entry : SessionEnvironment} (hentry : session.environments[handle]? = some entry) :
    (step.run session).2.environments[handle]? = some entry := by
  obtain ⟨new, hnew⟩ := run_keeps h session
  obtain ⟨hlt, -⟩ := List.getElem?_eq_some_iff.mp hentry
  rw [← hnew, List.getElem?_append_left hlt, hentry]

end Step

end Mustache
