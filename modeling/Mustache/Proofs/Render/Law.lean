import Mustache.Proofs.Render.Changing
import Mustache.Proofs.Value.Reach

/-!
# Laws of rendering

A **law of rendering** (`RenderLaw`) is a property of an outcome and of what is told on the way
there, one for each amount of room, with a clause for each thing a rendering can do: print a text or
a value, remark on something, open an expansion, fail. What has these clauses holds of every
rendering (`RenderLaw.renderFrom`). Whoever has a property to show of all renderings shows the
clauses, and sees no tree, no state and no store.

The clauses are given what can be known: a value that is printed is **reached** from the scope, and
a node that is rendered is reached from the node as a whole (`Node.Reaches`), through blocks,
documents in place, and the documents that the store gives for partials. A fault comes from where
the scope or the store failed, or from a policy (`RenderFault`), or else the room was used up.

That a rendering **upholds** a property (`Upholds`) is kept by each way of putting renderings
together, as long as the documents that are kept are such as the store gave.
-/

namespace Mustache

/-! ## What a rendering gets at -/

/-- **The store gives a document** for a partial, at some time: its text reads, so indented, as the
document. -/
def ChangingStore.Gives (store : ChangingStore) (name indent : Chars) (document : Document) :
    Prop :=
  ∃ journal text, store journal name = .ok text
    ∧ Document.parse (indentText indent text) = .ok document

/-- **A node is reached** from another: it stands inside, or inside the document of a partial. -/
inductive Node.Reaches (store : ChangingStore) : Node → Node → Prop
  | self (node : Node) : node.Reaches store node
  | blockChild {name : Chars} {inverted : Bool} {children : List Node} {child target : Node}
      (hmem : child ∈ children) (h : child.Reaches store target) :
      (Node.block name inverted children).Reaches store target
  | documentChild {children : List Node} {child target : Node} (hmem : child ∈ children)
      (h : child.Reaches store target) : (Node.document children).Reaches store target
  | partialChild {name indent : Chars} {document : Document} {child target : Node}
      (hgives : store.Gives name indent document) (hmem : child ∈ document.children)
      (h : child.Reaches store target) : (Node.inclusion name indent).Reaches store target

theorem Node.Reaches.trans {store : ChangingStore} {node middle target : Node}
    (h : node.Reaches store middle) (htarget : middle.Reaches store target) :
    node.Reaches store target := by
  induction h with
  | self => exact htarget
  | blockChild hmem _ ih => exact .blockChild hmem (ih htarget)
  | documentChild hmem _ ih => exact .documentChild hmem (ih htarget)
  | partialChild hgives hmem _ ih => exact .partialChild hgives hmem (ih htarget)

/-- **A scope lies within another**: its frames are reached from there. -/
def Scope.Within (inner scope : Scope) : Prop := ∀ frame ∈ inner.frames, scope.Reaches frame

namespace Scope.Within

variable {inner scope : Scope}

theorem refl (scope : Scope) : scope.Within scope := fun frame hframe => ⟨frame, hframe, .self _⟩

/-- What is reached from within is reached. -/
theorem reaches (h : inner.Within scope) {value : Value} (hvalue : inner.Reaches value) :
    scope.Reaches value := by
  obtain ⟨frame, hframe, hreached⟩ := hvalue
  obtain ⟨outer, houter, hreaches⟩ := h frame hframe
  exact ⟨outer, houter, hreaches.trans hreached⟩

/-- What can fail within can fail. -/
theorem mayFail (h : inner.Within scope) {fault : Fault} (hfault : inner.MayFail fault) :
    scope.MayFail fault := by
  obtain ⟨frame, hframe, hfail⟩ := hfault
  exact (h frame hframe).mayFail hfail

/-- The scope of an item that is reached. -/
theorem extend (h : inner.Within scope) {item : Value} (hitem : scope.Reaches item) :
    (inner.extend item).Within scope := by
  intro frame hframe
  rcases List.mem_cons.mp hframe with rfl | hframe
  · exact hitem
  · exact h frame hframe

end Scope.Within

/-- **Where the fault of loading a partial comes from.** -/
inductive LoadFault (settings : RenderSettings) (store : ChangingStore) : Fault → Prop
  /-- The partial is missing, and the policy is to fail. -/
  | partialNotFound {journal : List RenderEvent} {name missing : Chars}
      (hstore : store journal name = .error (.partialNotFound missing))
      (hpolicy : settings.missingPartials = .raise) :
      LoadFault settings store (.partialNotFound missing)
  /-- The store fails, and not for a partial that is missing. -/
  | ofStore {journal : List RenderEvent} {name : Chars} {fault : Fault}
      (hstore : store journal name = .error fault)
      (hother : ∀ missing, fault ≠ .partialNotFound missing) : LoadFault settings store fault
  /-- The text of the partial cannot be read. -/
  | unreadable {journal : List RenderEvent} {name indent text : Chars} {fault : Fault}
      (hstore : store journal name = .ok text)
      (hparse : Document.parse (indentText indent text) = .error fault) :
      LoadFault settings store fault

/-- **Where the fault of a rendering comes from**, when there was room for all expansions. -/
inductive RenderFault (settings : RenderSettings) (store : ChangingStore) (scope : Scope) :
    Fault → Prop
  /-- A name is missing, and the policy is to fail. -/
  | unresolved (name : Chars) (hpolicy : settings.missingVariables = .raise) :
      RenderFault settings store scope (.unresolved name)
  /-- A value that the scope reaches fails. -/
  | ofScope {fault : Fault} (h : scope.MayFail fault) : RenderFault settings store scope fault
  /-- A value that the scope reaches cannot be printed. -/
  | ofPrinting {escaped : Bool} {value : Value} {fault : Fault}
      (hvalue : scope.Reaches value ∨ value = .absent)
      (h : printValue settings escaped value = .error fault) :
      RenderFault settings store scope fault
  /-- A partial cannot be loaded. -/
  | ofLoad {fault : Fault} (h : LoadFault settings store fault) :
      RenderFault settings store scope fault

/-! ## Upholding a property -/

/-- **Each document kept is one that the store gave.** -/
def RenderState.KeptFrom (store : ChangingStore) (state : RenderState) : Prop :=
  ∀ name indent document, state.cache.lookup (name, indent) = some document →
    store.Gives name indent document

theorem RenderState.keptFrom_fresh (store : ChangingStore) :
    RenderState.fresh.KeptFrom store := by
  intro name indent document h
  cases h

/-- **What came of a rendering upholds a property** of outcomes and of what is told, from the state
where it began. -/
structure UpholdsFrom {α : Type} (store : ChangingStore) (state : RenderState)
    (holds : Except Fault α → List RenderEvent → Prop) (result : Except Fault α × RenderState) :
    Prop where
  kept : result.2.KeptFrom store
  told : ∃ told, result.2.journal = told.reverse ++ state.journal ∧ holds result.1 told

/-- **A rendering upholds a property**, from every state whose documents the store gave. -/
def Upholds {α : Type} (store : ChangingStore) (holds : Except Fault α → List RenderEvent → Prop)
    (rendering : Rendering α) : Prop :=
  ∀ state, state.KeptFrom store → UpholdsFrom store state holds (rendering state)

namespace Upholds

variable {α β : Type} {store : ChangingStore} {holds : Except Fault α → List RenderEvent → Prop}
  {holds' : Except Fault β → List RenderEvent → Prop}

theorem pure {a : α} (h : holds (.ok a) []) : Upholds store holds (Pure.pure a) :=
  fun _ hkept => ⟨hkept, [], rfl, h⟩

theorem fail {fault : Fault} (h : holds (.error fault) []) :
    Upholds store holds (Rendering.fail fault) :=
  fun _ hkept => ⟨hkept, [], rfl, h⟩

/-- What follows from a property upheld is upheld. -/
theorem imp {stronger : Except Fault α → List RenderEvent → Prop} {rendering : Rendering α}
    (h : Upholds store stronger rendering)
    (himp : ∀ outcome told, stronger outcome told → holds outcome told) :
    Upholds store holds rendering := by
  intro state hkept
  obtain ⟨hafter, told, hjournal, hholds⟩ := h state hkept
  exact ⟨hafter, told, hjournal, himp _ _ hholds⟩

/-- **One rendering after the other.** -/
theorem bind {first : Rendering α} {second : α → Rendering β} (hfirst : Upholds store holds first)
    (herror : ∀ fault told, holds (.error fault) told → holds' (.error fault) told)
    (hsecond : ∀ a told, holds (.ok a) told →
      Upholds store (fun outcome others => holds' outcome (told ++ others)) (second a)) :
    Upholds store holds' (first >>= second) := by
  intro state hkept
  obtain ⟨hmiddle, told, hjournal, hholds⟩ := hfirst state hkept
  cases hresult : first state with
  | mk outcome middle =>
    rw [hresult] at hmiddle hjournal hholds
    cases outcome with
    | error fault =>
      have hrun : (first >>= second) state = (.error fault, middle) := by
        simp only [Bind.bind, hresult]
      rw [hrun]
      exact ⟨hmiddle, told, hjournal, herror fault told hholds⟩
    | ok a =>
      have hrun : (first >>= second) state = second a middle := by
        simp only [Bind.bind, hresult]
      obtain ⟨hafter, others, hjournal', hholds'⟩ := hsecond a told hholds middle hmiddle
      rw [hrun]
      refine ⟨hafter, told ++ others, ?_, hholds'⟩
      rw [hjournal', hjournal, List.reverse_append, List.append_assoc]

/-- Depth is neither kept nor told. -/
theorem deeper {body : Rendering α} (h : Upholds store holds body) :
    Upholds store holds (Rendering.deeper body) := by
  intro state hkept
  obtain ⟨hafter, told, hjournal, hholds⟩ := h { state with depth := state.depth + 1 } hkept
  exact ⟨hafter, told, hjournal, hholds⟩

/-- The events around an expansion are told, however the body ends. -/
theorem opened {body : Rendering α} (name : Chars)
    (h : Upholds store (fun outcome told => holds outcome (.opened name :: (told ++ [.closed])))
      body) :
    Upholds store holds (Rendering.opened name body) := by
  intro state hkept
  obtain ⟨hafter, told, hjournal, hholds⟩ :=
    h { state with journal := .opened name :: state.journal } hkept
  refine ⟨hafter, RenderEvent.opened name :: (told ++ [RenderEvent.closed]), ?_, hholds⟩
  show RenderEvent.closed :: (body { state with journal := _ }).2.journal = _
  rw [hjournal]
  simp

/-- An event is told, and then comes the rest. -/
theorem note_bind {event : RenderEvent} {rest : Unit → Rendering α}
    (h : Upholds store (fun outcome others => holds outcome (event :: others)) (rest ())) :
    Upholds store holds (Rendering.note event >>= rest) := by
  intro state hkept
  obtain ⟨hafter, told, hjournal, hholds⟩ :=
    h { state with journal := event :: state.journal } hkept
  refine ⟨hafter, event :: told, ?_, hholds⟩
  show (rest () { state with journal := _ }).2.journal = _
  rw [hjournal]
  simp

/-- A document that the store gave is kept, and then comes the rest. -/
theorem remember_bind {name indent : Chars} {document : Document} {rest : Unit → Rendering α}
    (hgives : store.Gives name indent document) (h : Upholds store holds (rest ())) :
    Upholds store holds (Rendering.remember (name, indent) document >>= rest) := by
  intro state hkept
  have hmore : RenderState.KeptFrom store
      { state with cache := ((name, indent), document) :: state.cache } := by
    intro name' indent' document' hlookup
    have hlookup : List.lookup (name', indent') (((name, indent), document) :: state.cache)
        = some document' := hlookup
    by_cases hkey : (name', indent') = (name, indent)
    · cases hkey
      rw [List.lookup_cons_self] at hlookup
      cases hlookup
      exact hgives
    · rw [List.lookup_cons, beq_false_of_ne hkey] at hlookup
      exact hkept name' indent' document' hlookup
  obtain ⟨hafter, told, hjournal, hholds⟩ := h _ hmore
  exact ⟨hafter, told, hjournal, hholds⟩

end Upholds

/-! ## Names and partials -/

/-- **What comes of a name** within a scope. -/
inductive NameResult (settings : RenderSettings) (store : ChangingStore) (scope : Scope) :
    Except Fault Value → List RenderEvent → Prop
  | found {value : Value} (h : scope.Reaches value) :
      NameResult settings store scope (.ok value) []
  | missing (name : Chars) : NameResult settings store scope (.ok .absent) [.missingName name]
  | failed {fault : Fault} (h : RenderFault settings store scope fault) :
      NameResult settings store scope (.error fault) []

/-- **What comes of loading a partial.** -/
inductive LoadResult (settings : RenderSettings) (store : ChangingStore) (name indent : Chars) :
    Except Fault (Option Document) → List RenderEvent → Prop
  | kept {document : Document} (h : store.Gives name indent document) :
      LoadResult settings store name indent (.ok (some document)) []
  | read {document : Document} (h : store.Gives name indent document) :
      LoadResult settings store name indent (.ok (some document)) [.asked name]
  | missing : LoadResult settings store name indent (.ok none)
      [.asked name, .missingPartial name]
  | failed {fault : Fault} (h : LoadFault settings store fault) :
      LoadResult settings store name indent (.error fault) [.asked name]

section Results

variable (settings : RenderSettings) (store : ChangingStore) {inner scope : Scope}

theorem upholds_resolveName (hinner : inner.Within scope) (name : Chars) :
    Upholds store (NameResult settings store scope) (resolveName settings inner name) := by
  unfold resolveName
  cases hresolve : inner.resolve name with
  | ok value => exact .pure (.found (hinner.reaches (Scope.resolve_reaches hresolve)))
  | error fault =>
    have hfault : fault = .unresolved name ∨ scope.MayFail fault :=
      (Scope.resolve_error hresolve).imp_right hinner.mayFail
    by_cases hmissing : ∃ missing, fault = .unresolved missing
    · obtain ⟨missing, rfl⟩ := hmissing
      by_cases hpolicy : settings.missingVariables = .raise
      · simp only [hpolicy, if_true]
        exact .fail (.failed (.unresolved missing hpolicy))
      · simp only [hpolicy, if_false]
        exact .note_bind (.pure (.missing name))
    · have hfails : scope.MayFail fault := hfault.resolve_left fun h => hmissing ⟨name, h⟩
      cases fault with
      | unresolved missing => exact absurd ⟨missing, rfl⟩ hmissing
      | _ => exact .fail (.failed (.ofScope hfails))

theorem upholds_readPartial (journal : List RenderEvent) (name indent : Chars) :
    Upholds store (LoadResult settings store name indent)
      (readPartial settings (store journal) name indent) := by
  unfold readPartial
  refine .note_bind ?_
  cases hstore : store journal name with
  | ok text =>
    dsimp only
    cases hparse : Document.parse (indentText indent text) with
    | error fault => exact Upholds.fail (LoadResult.failed (.unreadable hstore hparse))
    | ok document =>
      have hgives : store.Gives name indent document := ⟨journal, text, hstore, hparse⟩
      show Upholds store _ (Rendering.remember (name, indent) document >>= fun _ =>
        Pure.pure (some document))
      exact .remember_bind hgives (.pure (.read hgives))
  | error fault =>
    cases fault with
    | partialNotFound missing =>
      by_cases hpolicy : settings.missingPartials = .raise
      · simp only [hpolicy, if_true]
        exact .fail (.failed (.partialNotFound hstore hpolicy))
      · simp only [hpolicy, if_false]
        exact .note_bind (.pure .missing)
    | _ => exact .fail (.failed (.ofStore hstore (by simp)))

theorem upholds_loadFrom (name indent : Chars) :
    Upholds store (LoadResult settings store name indent)
      (loadFrom settings store name indent) := by
  intro state hkept
  cases hlookup : state.cache.lookup (name, indent) with
  | none =>
    have hrun : loadFrom settings store name indent state
        = readPartial settings (store state.journal) name indent state := by
      simp only [loadFrom, loadPartial, bind, Rendering.kept?, hlookup]
    rw [hrun]
    exact upholds_readPartial settings store state.journal name indent state hkept
  | some document =>
    have hrun : loadFrom settings store name indent state = (.ok (some document), state) := by
      simp only [loadFrom, loadPartial, bind, Rendering.kept?, hlookup]
      rfl
    rw [hrun]
    exact ⟨hkept, [], rfl, .kept (hkept name indent document hlookup)⟩

end Results

/-! ## Laws -/

/-- The event is a remark: it opens and closes no expansion. -/
def RenderEvent.IsRemark : RenderEvent → Prop
  | .opened _ | .closed => False
  | .asked _ | .missingName _ | .missingPartial _ | .loaded _ => True

/-- **A law of rendering** a node in a scope: what holds of outcomes and of what is told, by the
room for expansions, has a clause for each thing that a rendering can do. -/
structure RenderLaw (settings : RenderSettings) (store : ChangingStore) (root : Node)
    (scope : Scope) (holds : Nat → Except Fault Chars → List RenderEvent → Prop) : Prop where
  /-- Nothing is printed. -/
  nothing (room : Nat) : holds room (.ok []) []
  /-- One thing is printed, and then comes another. -/
  append {room : Nat} {first : Chars} {told others : List RenderEvent}
    {outcome : Except Fault Chars} (hfirst : holds room (.ok first) told)
    (hothers : holds room outcome others) :
    holds room (outcome.map (first ++ ·)) (told ++ others)
  /-- A remark is made. -/
  remark (room : Nat) (event : RenderEvent) (h : event.IsRemark) : holds room (.ok []) [event]
  /-- A text is printed. -/
  text (room : Nat) {text : Chars} (h : root.Reaches store (.text text)) : holds room (.ok text) []
  /-- A value is printed, or what stands for one that is missing. -/
  value (room : Nat) {name : Chars} {escaped : Bool} {value : Value} {text : Chars}
    (h : root.Reaches store (.interpolation name escaped))
    (hvalue : scope.Reaches value ∨ value = .absent)
    (htext : printValue settings escaped value = .ok text) : holds room (.ok text) []
  /-- Something fails. -/
  fails (room : Nat) {fault : Fault} (h : RenderFault settings store scope fault) :
    holds room (.error fault) []
  /-- A partial is there, and no room. -/
  tooDeep {name indent : Chars} {document : Document}
    (h : root.Reaches store (.inclusion name indent)) (hgives : store.Gives name indent document) :
    holds 0 (.error (.tooDeep name settings.limit)) [.loaded name]
  /-- An expansion is opened, and closed when its body is done. -/
  opened {room : Nat} {outcome : Except Fault Chars} {told : List RenderEvent} (name : Chars)
    (h : holds room outcome told) : holds (room + 1) outcome (.opened name :: (told ++ [.closed]))

namespace RenderLaw

variable {settings : RenderSettings} {store : ChangingStore} {root : Node} {scope : Scope}
  {holds : Nat → Except Fault Chars → List RenderEvent → Prop}

/-- **After a remark or nothing**, the rest is as it would be alone. -/
theorem after (law : RenderLaw settings store root scope holds) {room : Nat}
    {told : List RenderEvent} (htold : holds room (.ok []) told) {rest : Rendering Chars}
    (hrest : Upholds store (holds room) rest) :
    Upholds store (fun outcome others => holds room outcome (told ++ others)) rest := by
  refine hrest.imp fun outcome others h => ?_
  have happend := law.append htold h
  cases outcome with
  | ok text => exact happend
  | error fault => exact happend

/-- **One text after another.** -/
theorem seq (law : RenderLaw settings store root scope holds) {room : Nat}
    {first others : Rendering Chars} (hfirst : Upholds store (holds room) first)
    (hothers : Upholds store (holds room) others) :
    Upholds store (holds room) (do
      let text ← first
      let rest ← others
      return text ++ rest) := by
  refine hfirst.bind (fun _ _ h => h) fun text told htold => ?_
  refine hothers.bind (fun _ _ h => law.append htold h) fun rest told' htold' => ?_
  refine .pure ?_
  rw [List.append_nil]
  exact law.append htold htold'

theorem renderEach (law : RenderLaw settings store root scope holds) {room : Nat}
    {body : Value → Rendering Chars} {items : List Value}
    (h : ∀ item ∈ items, Upholds store (holds room) (body item)) :
    Upholds store (holds room) (renderEach body items) := by
  induction items with
  | nil => exact .pure (law.nothing room)
  | cons item items ih =>
    exact law.seq (h item List.mem_cons_self)
      (ih fun other hmem => h other (List.mem_cons_of_mem _ hmem))

/-- What is told of a name that has a value, or stands for none. -/
theorem of_nameResult (law : RenderLaw settings store root scope holds) {room : Nat} {value : Value}
    {told : List RenderEvent} (h : NameResult settings store scope (.ok value) told) :
    holds room (.ok []) told ∧ (scope.Reaches value ∨ value = .absent) := by
  cases h with
  | found hvalue => exact ⟨law.nothing room, .inl hvalue⟩
  | missing name => exact ⟨law.remark room (.missingName name) trivial, .inr rfl⟩

/-- A name that fails. -/
theorem of_nameResult_error (law : RenderLaw settings store root scope holds) {room : Nat}
    {fault : Fault} {told : List RenderEvent}
    (h : NameResult settings store scope (.error fault) told) : holds room (.error fault) told := by
  cases h with
  | failed hfault => exact law.fails room hfault

/-- What is printed for such a value, if it can be. -/
theorem printed (law : RenderLaw settings store root scope holds) (room : Nat) {name : Chars}
    {escaped : Bool} {value : Value} (h : root.Reaches store (.interpolation name escaped))
    (hvalue : scope.Reaches value ∨ value = .absent) :
    Upholds store (holds room) (Rendering.lift (printValue settings escaped value)) := by
  cases htext : printValue settings escaped value with
  | ok text => exact .pure (law.value room h hvalue htext)
  | error fault => exact .fail (law.fails room (.ofPrinting hvalue htext))

/-- **The items of such a value**, if it has any, are reached. -/
theorem withItems (law : RenderLaw settings store root scope holds) {room : Nat} {value : Value}
    (hvalue : scope.Reaches value ∨ value = .absent) {rest : List Value → Rendering Chars}
    (h : ∀ items, (∀ item ∈ items, scope.Reaches item) → Upholds store (holds room) (rest items)) :
    Upholds store (holds room) (Rendering.lift value.items >>= rest) := by
  cases hitems : value.items with
  | ok items =>
    refine h items fun item hmem => ?_
    rcases hvalue with ⟨frame, hframe, hreached⟩ | rfl
    · exact ⟨frame, hframe, hreached.trans (Value.items_reached hitems hmem)⟩
    · -- what is absent has no items
      cases hitems
      cases hmem
  | error fault =>
    rcases hvalue with hreached | rfl
    · have hfails : scope.MayFail fault := hreached.mayFail (Value.items_mayFail hitems)
      exact .fail (law.fails room (.ofScope hfails))
    · cases hitems

section Nodes

variable {expansion : Expansion} {room : Nat}

mutual

/-- **A node**, when partial tags keep to the law. -/
theorem renderNode (law : RenderLaw settings store root scope holds)
    (h : ∀ {inner : Scope} {name indent : Chars}, inner.Within scope →
      root.Reaches store (.inclusion name indent) →
      Upholds store (holds room) (expansion inner name indent)) :
    ∀ (node : Node) {inner : Scope}, root.Reaches store node → inner.Within scope →
      Upholds store (holds room) (renderNode settings expansion node inner)
  | .text _, _, hnode, _ => by
    rw [Mustache.renderNode]
    exact .pure (law.text room hnode)
  | .interpolation name escaped, inner, hnode, hinner => by
    rw [Mustache.renderNode]
    refine (upholds_resolveName settings store hinner name).bind ?_ fun value told hresult => ?_
    · exact fun fault told h => law.of_nameResult_error h
    · obtain ⟨htold, hvalue⟩ := law.of_nameResult hresult
      exact law.after htold (law.printed room hnode hvalue)
  | .block name inverted children, inner, hnode, hinner => by
    have hchildren : ∀ child ∈ children, root.Reaches store child := fun child hmem =>
      hnode.trans (.blockChild hmem (.self _))
    rw [Mustache.renderNode]
    refine (upholds_resolveName settings store hinner name).bind ?_ fun value told hresult => ?_
    · exact fun fault told h => law.of_nameResult_error h
    obtain ⟨htold, hvalue⟩ := law.of_nameResult hresult
    refine law.after htold (law.withItems hvalue fun items hitems => ?_)
    split
    · split
      · exact law.renderNodes h children hchildren hinner
      · exact .pure (law.nothing room)
    · exact law.renderEach fun item hitem =>
        law.renderNodes h children hchildren (hinner.extend (hitems item hitem))
  | .inclusion name indent, inner, hnode, hinner => by
    rw [Mustache.renderNode]
    exact h hinner hnode
  | .document children, inner, hnode, hinner => by
    rw [Mustache.renderNode]
    exact law.renderNodes h children
      (fun child hmem => hnode.trans (.documentChild hmem (.self _))) hinner

/-- Nodes one after the other. -/
theorem renderNodes (law : RenderLaw settings store root scope holds)
    (h : ∀ {inner : Scope} {name indent : Chars}, inner.Within scope →
      root.Reaches store (.inclusion name indent) →
      Upholds store (holds room) (expansion inner name indent)) :
    ∀ (nodes : List Node) {inner : Scope}, (∀ node ∈ nodes, root.Reaches store node) →
      inner.Within scope → Upholds store (holds room) (renderNodes settings expansion nodes inner)
  | [], _, _, _ => by
    rw [Mustache.renderNodes]
    exact .pure (law.nothing room)
  | node :: rest, inner, hnodes, hinner => by
    rw [Mustache.renderNodes]
    exact law.seq (law.renderNode h node (hnodes node List.mem_cons_self) hinner)
      (law.renderNodes h rest (fun other hmem => hnodes other (List.mem_cons_of_mem _ hmem)) hinner)

end

end Nodes

/-- What is told of a partial that was loaded, or is missing. -/
theorem of_loadResult (law : RenderLaw settings store root scope holds) {room : Nat}
    {name indent : Chars} {kept : Option Document} {told : List RenderEvent}
    (h : LoadResult settings store name indent (.ok kept) told) :
    holds room (.ok []) told ∧ ∀ document ∈ kept, store.Gives name indent document := by
  have hasked := law.remark room (.asked name) trivial
  cases h with
  | kept hgives => exact ⟨law.nothing room, fun _ h => Option.some.inj h ▸ hgives⟩
  | read hgives => exact ⟨hasked, fun _ h => Option.some.inj h ▸ hgives⟩
  | missing =>
    refine ⟨law.append hasked (law.remark room (.missingPartial name) trivial), fun _ h => ?_⟩
    cases h

/-- A partial that cannot be loaded. -/
theorem of_loadResult_error (law : RenderLaw settings store root scope holds) {room : Nat}
    {name indent : Chars} {fault : Fault} {told : List RenderEvent}
    (h : LoadResult settings store name indent (.error fault) told) :
    holds room (.error fault) told := by
  cases h with
  | failed hfault =>
    exact law.append (law.remark room (.asked name) trivial) (law.fails room (.ofLoad hfault))

/-- **A partial tag**, with any room. -/
theorem expandFrom (law : RenderLaw settings store root scope holds) (room : Nat) {inner : Scope}
    {name indent : Chars} (hinner : inner.Within scope)
    (hnode : root.Reaches store (.inclusion name indent)) :
    Upholds store (holds room) (expandFrom settings store room inner name indent) := by
  unfold Mustache.expandFrom
  refine (upholds_loadFrom settings store name indent).bind
    (fun _ _ h => law.of_loadResult_error h) fun kept told hresult => ?_
  obtain ⟨htold, hgives⟩ := law.of_loadResult hresult
  refine law.after htold ?_
  cases kept with
  | none => exact .pure (law.nothing room)
  | some document =>
    have hgiven : store.Gives name indent document := hgives document rfl
    refine .note_bind ?_
    cases room with
    | zero => exact Upholds.deeper (.fail (law.tooDeep hnode hgiven))
    | succ room =>
      refine law.after (law.remark _ (.loaded name) trivial) (Upholds.deeper ?_)
      have hchildren : ∀ child ∈ document.children, root.Reaches store child := fun child hmem =>
        hnode.trans (.partialChild hgiven hmem (.self _))
      have hbody : Upholds store (holds room) _ :=
        law.renderNodes (law.expandFrom room) document.children hchildren hinner
      exact Upholds.opened name (hbody.imp fun _ _ h => law.opened name h)

/-- **A law holds of every rendering**, with the room that is there when it begins. -/
theorem renderFrom (law : RenderLaw settings store root scope holds) {state : RenderState}
    (hkept : state.KeptFrom store) :
    UpholdsFrom store state (holds (settings.roomAbove state.depth))
      (renderFrom settings store root scope state) :=
  law.renderNode (fun hinner hnode => law.expandFrom _ hinner hnode) root (.self root)
    (.refl scope) state hkept

end RenderLaw

end Mustache
