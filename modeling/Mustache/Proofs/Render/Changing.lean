import Mustache.Environment

/-!
# Stores that change

A store of the host may answer the same name in another way the next time it is asked: it may count,
invent texts, or read files that change meanwhile. What it answers can hang on all that happened so
far. The journal tells what happened, and grows with every question, so that no two questions of a
rendering are asked at the same journal. A **changing store** answers by the journal and the name;
whatever a store does in the course of a rendering, some changing store does.

`renderFrom` renders from such a store: a partial is read with the answers of the moment. A store
that goes by the name alone is one that never changes, and rendering from it is rendering
(`renderFrom_steady`).
-/

namespace Mustache

/-- **A store that may change**: what it answers to a name, by the journal so far, latest event
first. -/
abbrev ChangingStore := List RenderEvent → Chars → Except Fault Chars

/-- The store that goes by the name alone. -/
def ChangingStore.steady (fetch : Chars → Except Fault Chars) : ChangingStore := fun _ => fetch

open Rendering

/-- The document of a partial, with the answers of the moment. -/
def loadFrom (settings : RenderSettings) (store : ChangingStore) (name indent : Chars) :
    Rendering (Option Document) := fun state =>
  loadPartial settings (store state.journal) name indent state

/-- **What a partial tag means** with so much room for expansions, when the store may change. -/
def expandFrom (settings : RenderSettings) (store : ChangingStore) : Nat → Expansion
  | room, scope, name, indent => do
    match ← loadFrom settings store name indent with
    | none => return []
    | some document =>
      note (.loaded name)
      deeper <|
        match room with
        | 0 => fail (.tooDeep name settings.limit)
        | room + 1 =>
          opened name
            (renderNodes settings (expandFrom settings store room) document.children scope)

/-- The room for expansions that the limit leaves above so many open ones. -/
def RenderSettings.roomAbove (settings : RenderSettings) (depth : Nat) : Nat :=
  (settings.limit.bound - depth).toNat

/-- **Renders a node** from a store that may change. -/
def renderFrom (settings : RenderSettings) (store : ChangingStore) (node : Node) (scope : Scope) :
    Rendering Chars := fun state =>
  renderNode settings (expandFrom settings store (settings.roomAbove state.depth)) node scope state

/-- A partial tag means what it means for a store that goes by the name. -/
theorem expandFrom_steady (settings : RenderSettings) (fetch : Chars → Except Fault Chars)
    (room : Nat) : expandFrom settings (.steady fetch) room = expand settings fetch room := by
  induction room with
  | zero =>
    funext scope name indent
    rw [expandFrom, expand]
    rfl
  | succ room ih =>
    funext scope name indent
    rw [expandFrom, expand]
    simp only [ih]
    rfl

/-- **Rendering from a store that goes by the name** is rendering. -/
theorem renderFrom_steady (settings : RenderSettings) (fetch : Chars → Except Fault Chars)
    (node : Node) (scope : Scope) :
    renderFrom settings (.steady fetch) node scope = render settings fetch node scope := by
  funext state
  unfold renderFrom render
  rw [expandFrom_steady]
  rfl

/-! ## One node alone -/

/-- Nothing more behind a text. -/
theorem Rendering.append_nothing (body : Rendering Chars) :
    (do
      let first ← body
      let others ← (pure [] : Rendering Chars)
      return first ++ others) = body := by
  funext state
  simp only [bind, pure]
  split
  next text after hbody => rw [hbody, List.append_nil]
  next fault after hbody => rw [hbody]

/-- One node alone is rendered as the node. -/
theorem renderNodes_singleton (settings : RenderSettings) (expansion : Expansion) (node : Node)
    (scope : Scope) (state : RenderState) :
    renderNodes settings expansion [node] scope state
      = renderNode settings expansion node scope state := by
  rw [renderNodes, renderNodes]
  exact congrFun (append_nothing _) state

/-! ## From the source -/

/-- **Compiles a template and renders it** from a store that may change. -/
def renderSourceFrom (settings : RenderSettings) (store : ChangingStore) (source : Chars)
    (scope : Scope) : Rendering Chars := do
  let template ← lift (Template.compile source)
  renderFrom settings store template.document.toNode scope

/-- **Compiles a template and renders it with data** from a store that may change. -/
def renderDataFrom (settings : RenderSettings) (store : ChangingStore) (source : Chars)
    (data : Data) : Rendering Chars := do
  let template ← lift (Template.compile source)
  let scope ← lift data.orEmpty.toScope
  renderFrom settings store template.document.toNode scope

/-- **An environment renders a template from its source** so, with its own settings, from the store
that it makes of the partials. -/
theorem Environment.renderSource_eq {environment : Environment} {host : HostAnswer}
    {extra : PartialsArgument} {store : Store} (h : environment.partials extra = .ok store)
    (source : Chars) (data : Data) :
    environment.renderSource host source data extra
      = renderDataFrom environment.renderSettings (.steady (store.fetch host)) source data := by
  unfold Environment.renderSource Environment.renderTemplate renderDataFrom
  simp only [h, renderFrom_steady]
  rfl

end Mustache
