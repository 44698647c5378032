import Mustache.Proofs.Environment.Alone
import Mustache.Proofs.Session.Frame

/-!
# The environment made by default

A session makes an environment by default when it first needs one, and keeps it. Where no variable
is for this library and there is no settings file, that is the **standard** environment
(`SessionM.defaultEnvironment_run`).

A template can then be rendered in three ways without an environment of one's own: from its source,
in two steps (compile, then render), or as the nodes that are read from it, by themselves. The three
are one (`default_renders_alike`). They are equal as computations: from every state they print the
same text or fail with the same fault, a fault of the template before one of the partials given and
that before one of the rendering; and they tell the same and ask the stores the same questions.

**What is left out.** Nothing as data: an environment takes it for an empty mapping, a node by
itself does not.
-/

namespace Mustache

open Rendering

/-! ## The environment made by default -/

/-- **No variable is for this library**: none has a name that begins so. -/
def Table.NoSettings (vars : Table) : Prop := ∀ entry ∈ vars, ¬ "STACHE_".toList <+: entry.1

namespace Table.NoSettings

variable {vars : Table}

theorem text?_eq_none (h : vars.NoSettings) {name : Chars} (hname : "STACHE_".toList <+: name) :
    vars.text? name = none := by
  apply Table.text?_eq_none
  intro entry hentry hequal
  rw [← hequal] at hname
  exact h entry hentry hname

/-- No variable gives a setting. -/
theorem fromVariable? (h : vars.NoSettings) (setting : Setting) :
    setting.fromVariable? vars = none := by
  have hprefix : "STACHE_".toList <+: setting.variableName := by
    cases setting <;> decide
  unfold Setting.fromVariable?
  rw [h.text?_eq_none hprefix]

/-- **Every setting has its default**, when the settings file gives none either. -/
theorem load (h : vars.NoSettings) (setting : Setting) :
    setting.load .null ⟨vars, .mapping []⟩ = .ok setting.default := by
  have hsource : setting.source? .null ⟨vars, .mapping []⟩ = .ok none := by
    unfold Setting.source? Setting.given?
    dsimp only
    rw [h.fromVariable? setting]
    rfl
  unfold Setting.load
  rw [hsource]
  rfl

/-- **The environment made without a wish is the standard one.** -/
theorem create (h : vars.NoSettings) :
    Environment.create ⟨.null, .null, .null, .null⟩ ⟨vars, .mapping []⟩ none .nothing
      = .ok .standard := by
  unfold Environment.create Settings.load
  rw [h.load .missingVariables, h.load .missingPartials, h.load .maxPartialDepth,
    h.load .escapeHtml]
  rfl

end Table.NoSettings

/-- **The environment made by default, if there is one, is the standard one.** -/
def Session.HasStandardDefault (session : Session) : Prop :=
  ∀ handle, session.defaultEnvironment = some handle →
    session.environments[handle]? = some ⟨.standard, false⟩

namespace SessionM

variable {session : Session}

/-- Without a settings file and without variables there is nothing to read. -/
theorem surroundingsAt_run (hvars : session.vars.NoSettings)
    (hfile : session.files.text? "pyproject.toml".toList = none) :
    surroundingsAt none session = (.ok ⟨session.vars, .mapping []⟩, session) := by
  have hdirectory : settingsDirectory none session.vars = [] := by
    have hvariable : session.vars.text? "STACHE_CONFIG_DIR".toList = none :=
      hvars.text?_eq_none (by decide)
    unfold settingsDirectory
    rw [hvariable]
    rfl
  have hpath : normalPath ([] ++ "/pyproject.toml".toList) = "pyproject.toml".toList := by
    decide
  have hfind : findFile "pyproject.toml".toList session = (.ok .missing, session) := by
    have hshort : isTooLong "pyproject.toml".toList = false := by decide +kernel
    unfold findFile
    rw [bind_run, get_run]
    dsimp only
    rw [hshort, hfile]
    rfl
  unfold surroundingsAt
  rw [bind_run, get_run]
  dsimp only
  rw [hdirectory, hpath, bind_run, hfind]
  rfl

/-- **The environment made by default is the standard one**: it was made before, or it is made
now. -/
theorem defaultEnvironment_run (hvars : session.vars.NoSettings)
    (hfile : session.files.text? "pyproject.toml".toList = none)
    (hdefault : session.HasStandardDefault) :
    ∃ handle after, defaultEnvironment session = (.ok handle, after)
      ∧ after.environments[handle]? = some ⟨.standard, false⟩ ∧ after.HasStandardDefault := by
  unfold defaultEnvironment
  rw [bind_run, get_run]
  dsimp only
  cases hmade : session.defaultEnvironment with
  | some handle => exact ⟨handle, session, rfl, hdefault handle hmade, hdefault⟩
  | none =>
    have hcreate : createEnvironment ⟨.null, .null, .null, .null⟩ none .nothing none false session
        = (.ok session.environments.length,
          { session with environments := session.environments ++ [⟨.standard, false⟩] }) := by
      unfold createEnvironment partialsOf
      rw [pure_bind, bind_run, surroundingsAt_run hvars hfile]
      dsimp only
      rw [hvars.create]
      rfl
    have hnew : (session.environments ++ [⟨.standard, false⟩])[session.environments.length]?
        = some ⟨.standard, false⟩ := List.getElem?_concat_length
    refine ⟨session.environments.length,
      { session with
        environments := session.environments ++ [⟨.standard, false⟩]
        defaultEnvironment := some session.environments.length }, ?_, hnew, ?_⟩
    · dsimp only
      rw [bind_run, hcreate]
      rfl
    · rintro handle hhandle
      cases hhandle
      exact hnew

end SessionM

/-- **The three ways to render are one**, where no variable and no settings file says otherwise: the
default environment renders a template from its source as it compiles it and renders the compiled
template, and as the nodes that are read from the source are rendered by themselves. -/
theorem default_renders_alike {session : Session} (hvars : session.vars.NoSettings)
    (hfile : session.files.text? "pyproject.toml".toList = none)
    (hdefault : session.HasStandardDefault) :
    ∃ handle environment after,
      SessionM.defaultEnvironment session = (.ok handle, after)
        ∧ after.environments[handle]? = some ⟨environment, false⟩ ∧ after.HasStandardDefault
        ∧ ∀ (source : Chars) (data : Data) (extra : PartialsArgument),
          data ≠ .value (.scalar .null) →
          (∀ host : HostAnswer,
            environment.renderSource host source data extra
                = (lift (Template.compile source) >>= fun template =>
                    environment.renderTemplate host template data extra)
              ∧ environment.renderSource host source data extra
                = (lift (Document.parse source) >>= fun document =>
                    document.toNode.renderAlone host data extra))
          ∧ ∀ host : ChangingHost,
            environment.renderSourceFrom host source data extra
                = (lift (Template.compile source) >>= fun template =>
                    environment.renderTemplateFrom host template data extra)
              ∧ environment.renderSourceFrom host source data extra
                = (lift (Document.parse source) >>= fun document =>
                    document.toNode.renderAloneFrom host data extra) := by
  obtain ⟨handle, after, hrun, hfound, hafter⟩ :=
    SessionM.defaultEnvironment_run hvars hfile hdefault
  refine ⟨handle, .standard, after, hrun, hfound, hafter, fun source data extra hdata => ?_⟩
  have hchanging : ∀ host : ChangingHost,
      Environment.standard.renderSourceFrom host source data extra
        = (lift (Document.parse source) >>= fun document =>
            document.toNode.renderAloneFrom host data extra) := by
    intro host
    unfold Environment.renderSourceFrom
    simp only [Environment.renderTemplateFrom_standard hdata]
    exact Template.compile_bind source fun document =>
      document.toNode.renderAloneFrom host data extra
  refine ⟨fun host => ⟨rfl, ?_⟩, fun host => ⟨rfl, hchanging host⟩⟩
  have hsteady := hchanging (.steady host)
  simpa only [Environment.renderSourceFrom_steady, Node.renderAloneFrom_steady] using hsteady

/-- A store that fails with the name of another partial than it was asked for: as it stands behind
an environment the name is another one, but the rendering is the same. -/
theorem default_renders_alike_other_name :
    let session : Session := { Session.fresh SettingsFile.read? with vars := [("HOME".toList, ['/'])] }
    let host : HostAnswer := fun _ _ => .error (.partialNotFound "other".toList)
    let source : Chars := "\x7b\x7b>p\x7d\x7d\x7b\x7ba\x7d\x7d".toList
    let data : Data := .value (.mapping [(.ofChars ['a'], .ofChars ['<'])])
    let extra : PartialsArgument := .store (.host 0)
    session.vars.NoSettings ∧ session.files.text? "pyproject.toml".toList = none
      ∧ session.HasStandardDefault ∧ data ≠ .value (.scalar .null)
      ∧ ∃ handle environment after,
        SessionM.defaultEnvironment session = (.ok handle, after)
          ∧ after.environments[handle]? = some ⟨environment, false⟩
          ∧ (environment.renderSource host source data extra .fresh).1 = .ok "&lt;".toList := by
  intro session host source data extra
  have hvars : session.vars.NoSettings := by
    rintro entry hentry
    cases List.mem_singleton.mp hentry
    decide
  have hfile : session.files.text? "pyproject.toml".toList = none := rfl
  have hdefault : session.HasStandardDefault := by
    rintro handle hhandle
    cases hhandle
  have hdata : data ≠ .value (.scalar .null) := by
    intro h
    simp only [data] at h
    cases h
  obtain ⟨handle, environment, after, hrun, hfound, -, hrenders⟩ :=
    default_renders_alike hvars hfile hdefault
  refine ⟨hvars, hfile, hdefault, hdata, handle, environment, after, hrun, hfound, ?_⟩
  rw [((hrenders source data extra hdata).1 host).2]
  simp only [host, source, data, extra]
  decide +kernel

end Mustache
