import Mustache.Settings
import Mustache.Settings.File
import Mustache.Store

/-!
# Environments and templates

An **environment** holds settings, an escaper, and partials: a registry of its own, and a store
behind it. It compiles a template once (`Environment.compile`) so that it can be rendered often
(`Environment.renderTemplate`). For each rendering the partials are looked for first among those
given for it alone, then in the registry as it is at that moment, then in the store.

A node can also be rendered without an environment (`Node.renderAlone`), with the settings that an
environment has when nothing asks for anything else.
-/

namespace Mustache

/-! ## Data -/

/-- **The data of a template**: a value, or a scope that exists already. -/
inductive Data where
  | value (value : Value)
  | scope (scope : Scope)
deriving Inhabited

namespace Data

/-- The scope that the data make, if they can be wrapped. -/
def toScope : Data → Except Fault Scope
  | .value given => Scope.root given
  | .scope given => .ok given

/-- The data, with an empty mapping in the place of nothing. -/
def orEmpty : Data → Data
  | .value (.scalar .null) => .value (.mapping [])
  | data => data

end Data

/-! ## Templates -/

/-- **A compiled template.** -/
structure Template where
  source : Chars
  tokens : List Token
  document : Document
deriving Inhabited

namespace Template

/-- **Compiles a template.** -/
def compile (source : Chars) : Except Fault Template := do
  let tokens ← tokenize source
  let document ← Document.ofTokens tokens source
  return ⟨source, tokens, document⟩

/-- The quoted form of a template. -/
def quoted (template : Template) : Chars :=
  "Template(".toList ++ Text.quoted template.source ++ [')']

end Template

/-! ## Environments -/

/-- **What surrounds the program**, from its variables and what there is of the settings file at
that path. -/
def Surroundings.read (vars : Table) (path : Chars) (found : SettingsFile.Found) :
    Except Fault Surroundings := do
  let file ← found.settings path
  return ⟨vars, file⟩

/-- **An environment.** -/
structure Environment where
  settings : Settings
  escaper : Option Escaper
  registered : Table
  store : Option Store

namespace Environment

/-- **An environment for a request.** A table of partials fills the registry; any other store
stands behind it. -/
def create (request : SettingsRequest) (surroundings : Surroundings) (escaper : Option Escaper)
    (partials : PartialsArgument) : Except Fault Environment := do
  let settings ← Settings.load request surroundings
  match partials with
  | .nothing => return ⟨settings, escaper, [], none⟩
  | .table entries => return ⟨settings, escaper, entries, none⟩
  | given => return ⟨settings, escaper, [], some (← given.toStore)⟩

/-- **The escaper in effect**: none when escaping is off, and that of HTML unless another was
given. -/
def escaperInEffect (environment : Environment) : Option Escaper :=
  if environment.settings.escapeHtml then some (environment.escaper.getD .html) else none

/-- Registers a partial, in the place of one of the same name. -/
def register (environment : Environment) (name text : Chars) : Environment :=
  { environment with registered := environment.registered.insert name text }

/-- **Takes a partial from the registry**, where it must be. -/
def unregister (environment : Environment) (name : Chars) : Except Fault Environment :=
  if environment.registered.hasName name then
    .ok { environment with registered := environment.registered.erase name }
  else .error (.notRegistered name)

/-- **The store for one rendering**: what is given for it alone, then the registry, then the
environment's own store. -/
def partials (environment : Environment) (extra : PartialsArgument) : Except Fault Store := do
  let behind := .table environment.registered :: environment.store.toList
  match extra with
  | .nothing => return .chain behind
  | given => return .chain ((← given.toStore) :: behind)

/-- How the environment renders. -/
def renderSettings (environment : Environment) : RenderSettings where
  missingVariables := .of environment.settings.missingVariables
  missingPartials := .of environment.settings.missingPartials
  escape := environment.escaperInEffect.map (·.apply)
  limit := .whole (effectiveLimit environment.settings.maxPartialDepth)

/-- **Renders a compiled template.** Nothing as data stands for an empty mapping. -/
def renderTemplate (environment : Environment) (host : HostAnswer) (template : Template)
    (data : Data) (extra : PartialsArgument) : Rendering Chars := do
  let store ← Rendering.lift (environment.partials extra)
  let scope ← Rendering.lift data.orEmpty.toScope
  render environment.renderSettings (store.fetch host) template.document.toNode scope

/-- **Renders a template from its source.** -/
def renderSource (environment : Environment) (host : HostAnswer) (source : Chars) (data : Data)
    (extra : PartialsArgument) : Rendering Chars := do
  let template ← Rendering.lift (Template.compile source)
  environment.renderTemplate host template data extra

end Environment

/-! ## Nodes by themselves -/

/-- How a node is rendered without an environment. -/
def RenderSettings.standard : RenderSettings where
  missingVariables := .of Settings.standard.missingVariables
  missingPartials := .of Settings.standard.missingPartials
  escape := some Escaper.html.apply
  limit := .whole (effectiveLimit Settings.standard.maxPartialDepth)

/-- **Renders a node by itself.** -/
def Node.renderAlone (node : Node) (host : HostAnswer) (data : Data)
    (partials : PartialsArgument) : Rendering Chars := do
  let store ← Rendering.lift partials.toStore
  let scope ← Rendering.lift data.toScope
  render .standard (store.fetch host) node scope

end Mustache
