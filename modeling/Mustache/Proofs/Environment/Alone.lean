import Mustache.Proofs.Environment.Lookup
import Mustache.Proofs.Render.Changing

/-!
# Environments and nodes by themselves

A node can be rendered by itself, or a document within an environment. The two differ in what they
put together. The environment chains the store given for the rendering with its registry, and
renders with settings that were loaded; the node takes the store as it is, and the standard
settings. With an empty registry, what the chain adds is the name with which a lookup fails: the one
asked for, where the store may tell of another. With the standard settings nobody sees that name,
as rendering goes the same for stores whose answers count the same (`renderFrom_congr`). So the
standard environment renders a document as the document is rendered by itself
(`Environment.renderTemplateFrom_standard`).

The stores of the host may change in the course of the rendering. A **changing host** answers by the
journal; handles tell apart the stores, and also two places of one store in a chain.
-/

namespace Mustache

open Rendering

/-! ## Answers that count the same -/

/-- **Two answers count the same** where a missing partial prints nothing: they are equal, or both
say that the partial is missing, of whatever name. -/
inductive MissingAlike : Except Fault Chars → Except Fault Chars → Prop
  | same (outcome : Except Fault Chars) : MissingAlike outcome outcome
  | missing (left right : Chars) :
      MissingAlike (.error (.partialNotFound left)) (.error (.partialNotFound right))

/-- With nothing behind it a store counts as it does alone. -/
theorem MissingAlike.unlessMissing (outcome : Except Fault Chars) (name : Chars) :
    MissingAlike (unlessMissing outcome (.error (.partialNotFound name))) outcome := by
  unfold Mustache.unlessMissing
  split
  next missing => exact .missing name missing
  · exact .same outcome

section Congruence

variable {settings : RenderSettings} (hpolicy : settings.missingPartials = .empty)

include hpolicy

theorem readPartial_congr {left right : Chars → Except Fault Chars} {name : Chars}
    (h : MissingAlike (left name) (right name)) (indent : Chars) :
    readPartial settings left name indent = readPartial settings right name indent := by
  have hempty : ¬ settings.missingPartials = .raise := by
    rw [hpolicy]
    decide
  unfold readPartial
  generalize left name = first at h
  generalize right name = second at h
  cases h with
  | same => rfl
  | missing first second =>
    dsimp only
    rw [if_neg hempty, if_neg hempty]

variable {left right : ChangingStore}
  (h : ∀ journal name, MissingAlike (left journal name) (right journal name))

include h

theorem loadFrom_congr (name indent : Chars) :
    loadFrom settings left name indent = loadFrom settings right name indent := by
  funext state
  unfold loadFrom loadPartial
  rw [readPartial_congr hpolicy (h state.journal name)]

/-- Partial tags mean the same, by induction on the room. -/
theorem expandFrom_congr (room : Nat) :
    expandFrom settings left room = expandFrom settings right room := by
  induction room with
  | zero =>
    funext scope name indent
    rw [expandFrom, expandFrom, loadFrom_congr hpolicy h]
  | succ room ih =>
    funext scope name indent
    rw [expandFrom, expandFrom, loadFrom_congr hpolicy h]
    simp only [ih]

/-- **Stores whose answers count the same are rendered from alike.** -/
theorem renderFrom_congr (node : Node) (scope : Scope) :
    renderFrom settings left node scope = renderFrom settings right node scope := by
  funext state
  unfold renderFrom
  rw [expandFrom_congr hpolicy h]

end Congruence

/-! ## Hosts that change -/

/-- **What the host's stores answer**, by the journal so far. -/
abbrev ChangingHost := List RenderEvent → HostAnswer

/-- The host whose stores do not change. -/
def ChangingHost.steady (host : HostAnswer) : ChangingHost := fun _ => host

/-- A store, of whose leaves those of the host may change. -/
def Store.changing (store : Store) (host : ChangingHost) : ChangingStore := fun journal name =>
  store.fetch (host journal) name

namespace Environment

/-- **Renders a compiled template**, with a host that may change. -/
def renderTemplateFrom (environment : Environment) (host : ChangingHost) (template : Template)
    (data : Data) (extra : PartialsArgument) : Rendering Chars := do
  let store ← lift (environment.partials extra)
  let scope ← lift data.orEmpty.toScope
  renderFrom environment.renderSettings (store.changing host) template.document.toNode scope

/-- **Renders a template from its source**, with a host that may change. -/
def renderSourceFrom (environment : Environment) (host : ChangingHost) (source : Chars)
    (data : Data) (extra : PartialsArgument) : Rendering Chars := do
  let template ← lift (Template.compile source)
  environment.renderTemplateFrom host template data extra

@[simp]
theorem renderTemplateFrom_steady (environment : Environment) (host : HostAnswer)
    (template : Template) (data : Data) (extra : PartialsArgument) :
    environment.renderTemplateFrom (.steady host) template data extra
      = environment.renderTemplate host template data extra := by
  have hstore (store : Store) : store.changing (.steady host) = .steady (store.fetch host) := rfl
  unfold renderTemplateFrom renderTemplate
  simp only [hstore, renderFrom_steady]

@[simp]
theorem renderSourceFrom_steady (environment : Environment) (host : HostAnswer) (source : Chars)
    (data : Data) (extra : PartialsArgument) :
    environment.renderSourceFrom (.steady host) source data extra
      = environment.renderSource host source data extra := by
  unfold renderSourceFrom renderSource
  simp only [renderTemplateFrom_steady]

end Environment

/-- **Renders a node by itself**, with a host that may change. -/
def Node.renderAloneFrom (node : Node) (host : ChangingHost) (data : Data)
    (partials : PartialsArgument) : Rendering Chars := do
  let store ← lift partials.toStore
  let scope ← lift data.toScope
  renderFrom .standard (store.changing host) node scope

@[simp]
theorem Node.renderAloneFrom_steady (node : Node) (host : HostAnswer) (data : Data)
    (partials : PartialsArgument) :
    node.renderAloneFrom (.steady host) data partials = node.renderAlone host data partials := by
  have hstore (store : Store) : store.changing (.steady host) = .steady (store.fetch host) := rfl
  unfold renderAloneFrom renderAlone
  simp only [hstore, renderFrom_steady]

/-! ## The standard environment -/

/-- **The environment when nothing asks for anything else.** -/
def Environment.standard : Environment := ⟨.standard, none, [], none⟩

/-- It renders as nodes by themselves are rendered. -/
theorem Environment.renderSettings_standard : Environment.standard.renderSettings = .standard := rfl

/-- Data that are something are taken as they are. -/
theorem Data.orEmpty_of_ne {data : Data} (h : data ≠ .value (.scalar .null)) :
    data.orEmpty = data := by
  unfold orEmpty
  split
  · exact absurd rfl h
  · rfl

/-- **A compiled template has the document that is read from its source.** -/
theorem Template.compile_bind {α : Type} (source : Chars) (next : Document → Rendering α) :
    (lift (compile source) >>= fun template => next template.document)
      = lift (Document.parse source) >>= next := by
  unfold compile Document.parse
  cases tokenize source with
  | error fault => rfl
  | ok tokens =>
    show (lift (Document.ofTokens tokens source >>= _) >>= _)
      = lift (Document.ofTokens tokens source) >>= next
    cases Document.ofTokens tokens source <;> rfl

/-- The standard environment renders a document as the document is rendered by itself. -/
theorem Environment.renderTemplateFrom_standard {data : Data}
    (hdata : data ≠ .value (.scalar .null)) (host : ChangingHost) (template : Template)
    (extra : PartialsArgument) :
    Environment.standard.renderTemplateFrom host template data extra
      = template.document.toNode.renderAloneFrom host data extra := by
  unfold renderTemplateFrom Node.renderAloneFrom
  rw [renderSettings_standard, Data.orEmpty_of_ne hdata]
  refine (Environment.standard.partials_coincide extra).lift_bind fun chain given hanswers => ?_
  refine congrArg (lift data.toScope >>= ·) (funext fun scope => ?_)
  apply renderFrom_congr rfl
  intro journal name
  unfold Store.changing
  rw [hanswers]
  exact .unlessMissing _ name

end Mustache
