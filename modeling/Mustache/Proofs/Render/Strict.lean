import Mustache.Proofs.Render.Law

/-!
# Failing at what is missing

Where a name or a partial is missing, a rendering prints nothing and tells of it, or it fails, as
its policies say. Either way it does the same up to there, and asks the same of the store. So how it
ends when it fails can be read off what is told when it does not: it fails with what is told to be
missing first, and it does the same where nothing is (`render_raise_eq`). The store may change.

A rendering **is a strict form** of another (`Rendering.IsStrictOf`) when from every state they are
the same run, with nothing told to be missing, or else the first fails with what the second tells
first. To be a strict form is kept by one thing after the other (`IsStrictOf.bind`): once the first
has failed, what the second does afterwards is of no account. It is shown for a node along the tree,
and for a partial along the room.

Two faults of the host would pass for what is missing: a store that says of another partial than the
one asked for that there is none, and a value that answers a question as a scope does that knows no
such name. Neither is allowed, of all that can be reached from the scope.
-/

namespace Mustache

open Rendering

/-! ## What is told to be missing -/

/-- **The fault that is spared** where the event tells of something missing. -/
def RenderEvent.missing? : RenderEvent → Option Fault
  | .missingName name => some (.unresolved name)
  | .missingPartial name => some (.partialNotFound name)
  | .asked _ | .loaded _ | .opened _ | .closed => none

/-- **The first thing told to be missing**, as the fault that is spared. -/
def RenderEvent.firstMissing? (events : List RenderEvent) : Option Fault :=
  events.findSome? RenderEvent.missing?

/-- **The same settings with one policy** for names and partials that are missing. -/
def RenderSettings.withPolicy (settings : RenderSettings) (policy : Policy) : RenderSettings :=
  { settings with missingVariables := policy, missingPartials := policy }

namespace RenderEvent

theorem firstMissing?_append (left right : List RenderEvent) :
    firstMissing? (left ++ right) = (firstMissing? left).or (firstMissing? right) :=
  List.findSome?_append

theorem firstMissing?_eq_none_iff {events : List RenderEvent} :
    firstMissing? events = none ↔ ∀ event ∈ events, event.missing? = none :=
  List.findSome?_eq_none_iff

theorem firstMissing?_of_first {earlier later : List RenderEvent} {event : RenderEvent}
    {fault : Fault} (hearlier : ∀ other ∈ earlier, other.missing? = none)
    (hevent : event.missing? = some fault) :
    firstMissing? (earlier ++ event :: later) = some fault := by
  rw [firstMissing?_append, firstMissing?_eq_none_iff.mpr hearlier]
  simp only [firstMissing?, List.findSome?_cons, hevent, Option.none_or]

end RenderEvent

open RenderEvent

/-! ## Strict forms -/

/-- **Two runs from a state**, of which the first stops at what the second tells is missing. -/
inductive StrictRun {α : Type} (state : RenderState) :
    Except Fault α × RenderState → Except Fault α × RenderState → Prop
  /-- Nothing is told to be missing, and both runs are one. -/
  | same {run : Except Fault α × RenderState} {told : List RenderEvent}
      (hjournal : run.2.journal = told.reverse ++ state.journal)
      (hnone : firstMissing? told = none) : StrictRun state run run
  /-- The first run fails with what the second tells first. -/
  | stops {strict lenient : Except Fault α × RenderState} {told : List RenderEvent} {fault : Fault}
      (hjournal : lenient.2.journal = told.reverse ++ state.journal)
      (hfirst : firstMissing? told = some fault) (hfails : strict.1 = .error fault) :
      StrictRun state strict lenient

/-- **One rendering is a strict form of another.** -/
def Rendering.IsStrictOf {α : Type} (strict lenient : Rendering α) : Prop :=
  ∀ state, StrictRun state (strict state) (lenient state)

/-- What a run from an earlier state tells is told after what came before. -/
theorem journal_append {before told others : List RenderEvent} {middle after : RenderState}
    (hmiddle : middle.journal = told.reverse ++ before)
    (hafter : after.journal = others.reverse ++ middle.journal) :
    after.journal = (told ++ others).reverse ++ before := by
  rw [hafter, hmiddle, List.reverse_append, List.append_assoc]

namespace Rendering.IsStrictOf

variable {α β : Type} {strict lenient : Rendering α}

/-- A rendering that tells nothing is a strict form of itself. -/
theorem of_silent {rendering : Rendering α}
    (h : ∀ state, (rendering state).2.journal = state.journal) :
    IsStrictOf rendering rendering := by
  intro state
  have hjournal : (rendering state).2.journal = [].reverse ++ state.journal := h state
  exact .same hjournal rfl

theorem pure (a : α) : IsStrictOf (pure a : Rendering α) (pure a) := of_silent fun _ => rfl

theorem fail (fault : Fault) : IsStrictOf (fail fault : Rendering α) (fail fault) :=
  of_silent fun _ => rfl

theorem lift (outcome : Except Fault α) : IsStrictOf (lift outcome) (lift outcome) :=
  of_silent fun _ => rfl

/-- An event that tells of nothing missing. -/
theorem note {event : RenderEvent} (h : event.missing? = none) :
    IsStrictOf (note event) (note event) := by
  intro state
  have hnone : firstMissing? [event] = none := firstMissing?_eq_none_iff.mpr fun other hmem =>
    List.mem_singleton.mp hmem ▸ h
  have hjournal : event :: state.journal = [event].reverse ++ state.journal := rfl
  exact .same hjournal hnone

/-- **One thing after the other**, where the second comes only after an answer. -/
theorem bind {next next' : α → Rendering β} (h : IsStrictOf strict lenient)
    (hnext : ∀ a, (∃ state, (lenient state).1 = .ok a) → IsStrictOf (next a) (next' a)) :
    IsStrictOf (strict >>= next) (lenient >>= next') := by
  intro state
  simp only [Bind.bind]
  have hrun := h state
  have hgiven : ∀ a, (lenient state).1 = .ok a → IsStrictOf (next a) (next' a) :=
    fun a ha => hnext a ⟨state, ha⟩
  generalize strict state = first, lenient state = first' at hrun hgiven ⊢
  cases hrun with
  | same hjournal hnone =>
    obtain ⟨outcome, middle⟩ := first
    cases outcome with
    | error fault => exact .same hjournal hnone
    | ok a =>
      show StrictRun state (next a middle) (next' a middle)
      have hrest := hgiven a rfl middle
      generalize next a middle = second, next' a middle = second' at hrest ⊢
      cases hrest with
      | same hmore hnone' =>
        refine .same (journal_append hjournal hmore) ?_
        rw [firstMissing?_append, hnone, hnone', Option.or_none]
      | stops hmore hfirst hfails =>
        refine .stops (journal_append hjournal hmore) ?_ hfails
        rw [firstMissing?_append, hnone, hfirst, Option.none_or]
  | stops hjournal hfirst hfails =>
    obtain ⟨outcome, middle⟩ := first
    cases hfails
    obtain ⟨outcome', middle'⟩ := first'
    cases outcome' with
    | error fault' => exact .stops hjournal hfirst rfl
    | ok a =>
      -- what the second does afterwards only adds to what it tells
      obtain ⟨others, hmore⟩ : ∃ others : List RenderEvent,
          (next' a middle').2.journal = others.reverse ++ middle'.journal := by
        have hrest := hgiven a rfl middle'
        generalize next a middle' = second, next' a middle' = second' at hrest ⊢
        cases hrest with
        | same hmore _ | stops hmore _ _ => exact ⟨_, hmore⟩
      refine .stops (journal_append hjournal hmore) ?_ rfl
      rw [firstMissing?_append, hfirst, Option.some_or]

theorem deeper (h : IsStrictOf strict lenient) :
    IsStrictOf (Rendering.deeper strict) (Rendering.deeper lenient) := by
  intro state
  have hrun := h { state with depth := state.depth + 1 }
  unfold Rendering.deeper
  generalize strict { state with depth := state.depth + 1 } = first,
    lenient { state with depth := state.depth + 1 } = first' at hrun ⊢
  cases hrun with
  | same hjournal hnone => exact .same hjournal hnone
  | stops hjournal hfirst hfails => exact .stops hjournal hfirst hfails

/-- The events around an expansion tell of nothing missing. -/
theorem opened (name : Chars) (h : IsStrictOf strict lenient) :
    IsStrictOf (Rendering.opened name strict) (Rendering.opened name lenient) := by
  intro state
  have hrun := h { state with journal := .opened name :: state.journal }
  have hjournal : ∀ {journal told : List RenderEvent},
      journal = told.reverse ++ RenderEvent.opened name :: state.journal →
      RenderEvent.closed :: journal
        = (RenderEvent.opened name :: told ++ [RenderEvent.closed]).reverse ++ state.journal := by
    rintro _ told rfl
    simp
  have hfirst : ∀ told, firstMissing? (RenderEvent.opened name :: told ++ [.closed])
      = firstMissing? told := by
    intro told
    rw [firstMissing?_append]
    exact Option.or_none
  unfold Rendering.opened
  generalize strict { state with journal := .opened name :: state.journal } = first,
    lenient { state with journal := .opened name :: state.journal } = first' at hrun ⊢
  cases hrun with
  | same htold hnone => exact .same (hjournal htold) ((hfirst _).trans hnone)
  | stops htold hmissing hfails =>
    exact .stops (hjournal htold) ((hfirst _).trans hmissing) hfails

end Rendering.IsStrictOf

/-! ## A name -/

/-- **No value fails as a scope does that knows no such name**, of those reached from the scope. -/
def Scope.NeverUnresolved (scope : Scope) : Prop :=
  ∀ frame ∈ scope.frames, ∀ fault, frame.MayFail fault → fault.kind ≠ .resolution

section Names

variable {scope : Scope} {settings : RenderSettings}

/-- A name that fails as unresolved does so by its own name. -/
theorem Scope.NeverUnresolved.eq_of_unresolved (h : scope.NeverUnresolved) {name missing : Chars}
    (hresolve : scope.resolve name = .error (.unresolved missing)) : missing = name := by
  obtain hfault | ⟨frame, hframe, hfails⟩ := Scope.resolve_error hresolve
  · cases hfault
    rfl
  · exact absurd rfl (h frame hframe _ hfails)

/-- A scope whose frames are reached from such a scope is one. -/
theorem Scope.NeverUnresolved.within {inner : Scope} (h : scope.NeverUnresolved)
    (hinner : inner.Within scope) : inner.NeverUnresolved := by
  intro frame hframe fault hfails
  obtain ⟨outer, houter, hreached⟩ := hinner frame hframe
  exact h outer houter fault (hreached.mayFail hfails)

/-- **A name.** -/
theorem isStrictOf_resolveName (h : scope.NeverUnresolved) (name : Chars) :
    IsStrictOf (resolveName (settings.withPolicy .raise) scope name)
      (resolveName (settings.withPolicy .empty) scope name) := by
  unfold resolveName
  cases hresolve : scope.resolve name with
  | ok value => exact .pure value
  | error fault =>
    cases fault with
    | unresolved missing =>
      cases h.eq_of_unresolved hresolve
      intro state
      have hjournal : RenderEvent.missingName name :: state.journal
          = [.missingName name].reverse ++ state.journal := rfl
      exact .stops hjournal rfl rfl
    | _ => exact .fail _

/-- A name has a value that is reached, or it is missing. -/
theorem reaches_of_resolveName {name : Chars} {value : Value} {state : RenderState}
    (h : (resolveName settings scope name state).1 = .ok value) :
    scope.Reaches value ∨ value = .absent := by
  unfold resolveName at h
  cases hresolve : scope.resolve name with
  | ok found =>
    rw [hresolve] at h
    cases h
    exact .inl (Scope.resolve_reaches hresolve)
  | error fault =>
    rw [hresolve] at h
    cases fault with
    | unresolved missing =>
      by_cases hpolicy : settings.missingVariables = .raise
      · simp only [hpolicy, if_true] at h
        cases h
      · simp only [hpolicy, if_false] at h
        cases h
        exact .inr rfl
    | _ => cases h

/-- The scope of an item of a value that a name has. -/
theorem Scope.NeverUnresolved.extend (h : scope.NeverUnresolved) {name : Chars} {value item : Value}
    {items : List Value} (hvalue : ∃ state, (resolveName settings scope name state).1 = .ok value)
    (hitems : value.items = .ok items) (hitem : item ∈ items) :
    (scope.extend item).NeverUnresolved := by
  obtain ⟨state, hvalue⟩ := hvalue
  rcases reaches_of_resolveName hvalue with ⟨frame, hframe, hreached⟩ | rfl
  · have hreaches : scope.Reaches item :=
      ⟨frame, hframe, hreached.trans (Value.items_reached hitems hitem)⟩
    exact h.within ((Scope.Within.refl scope).extend hreaches)
  · -- what is absent has no items
    cases hitems
    cases hitem

end Names

/-! ## A node -/

section Nodes

variable {settings : RenderSettings} {strict lenient : Expansion}

theorem isStrictOf_renderEach {body body' : Value → Rendering Chars} {items : List Value}
    (h : ∀ item ∈ items, IsStrictOf (body item) (body' item)) :
    IsStrictOf (renderEach body items) (renderEach body' items) := by
  induction items with
  | nil => exact .pure _
  | cons item items ih =>
    have hitem : IsStrictOf (body item) (body' item) := h item List.mem_cons_self
    have hitems := ih fun other hmem => h other (List.mem_cons_of_mem _ hmem)
    exact hitem.bind fun _ _ => hitems.bind fun _ _ => .pure _

mutual

/-- **A node**, when partial tags are rendered so. -/
theorem isStrictOf_renderNode
    (h : ∀ scope : Scope, scope.NeverUnresolved → ∀ name indent,
      IsStrictOf (strict scope name indent) (lenient scope name indent)) :
    ∀ (node : Node) {scope : Scope}, scope.NeverUnresolved →
      IsStrictOf (renderNode (settings.withPolicy .raise) strict node scope)
        (renderNode (settings.withPolicy .empty) lenient node scope)
  | .text _, _, _ => by
    rw [renderNode, renderNode]
    exact .pure _
  | .interpolation name escaped, _, hscope => by
    rw [renderNode, renderNode]
    exact (isStrictOf_resolveName hscope name).bind fun value _ =>
      .lift (printValue settings escaped value)
  | .block name inverted children, scope, hscope => by
    rw [renderNode, renderNode]
    refine (isStrictOf_resolveName hscope name).bind fun value hvalue => ?_
    refine (IsStrictOf.lift value.items).bind fun items hitems => ?_
    obtain ⟨_, hitems⟩ := hitems
    split
    · split
      · exact isStrictOf_renderNodes h children hscope
      · exact .pure _
    · exact isStrictOf_renderEach fun item hitem =>
        isStrictOf_renderNodes h children (hscope.extend hvalue hitems hitem)
  | .inclusion name indent, scope, hscope => by
    rw [renderNode, renderNode]
    exact h scope hscope name indent
  | .document children, _, hscope => by
    rw [renderNode, renderNode]
    exact isStrictOf_renderNodes h children hscope

/-- Nodes one after the other. -/
theorem isStrictOf_renderNodes
    (h : ∀ scope : Scope, scope.NeverUnresolved → ∀ name indent,
      IsStrictOf (strict scope name indent) (lenient scope name indent)) :
    ∀ (nodes : List Node) {scope : Scope}, scope.NeverUnresolved →
      IsStrictOf (renderNodes (settings.withPolicy .raise) strict nodes scope)
        (renderNodes (settings.withPolicy .empty) lenient nodes scope)
  | [], _, _ => by
    rw [renderNodes, renderNodes]
    exact .pure _
  | node :: rest, _, hscope => by
    rw [renderNodes, renderNodes]
    exact (isStrictOf_renderNode h node hscope).bind fun _ _ =>
      (isStrictOf_renderNodes h rest hscope).bind fun _ _ => .pure _

end

end Nodes

/-! ## A partial, and a whole rendering -/

section Partials

variable (settings : RenderSettings) {store : ChangingStore}

/-- **The document of a partial**, with the answers of the moment. -/
theorem isStrictOf_loadFrom
    (hstore : ∀ journal name missing,
      store journal name = .error (.partialNotFound missing) → missing = name)
    (name indent : Chars) :
    IsStrictOf (loadFrom (settings.withPolicy .raise) store name indent)
      (loadFrom (settings.withPolicy .empty) store name indent) := by
  intro state
  -- both ask at the same journal
  refine (?_ : IsStrictOf (loadPartial _ (store state.journal) name indent)
    (loadPartial _ (store state.journal) name indent)) state
  unfold loadPartial
  have hkept : IsStrictOf (kept? (name, indent)) (kept? (name, indent)) := .of_silent fun _ => rfl
  refine hkept.bind fun kept _ => ?_
  cases kept with
  | some document => exact .pure _
  | none =>
    unfold readPartial
    refine (IsStrictOf.note rfl).bind fun _ _ => ?_
    cases hname : store state.journal name with
    | ok text =>
      refine (IsStrictOf.lift _).bind fun document _ => ?_
      have hremember : IsStrictOf (remember (name, indent) document)
          (remember (name, indent) document) := .of_silent fun _ => rfl
      exact hremember.bind fun _ _ => .pure _
    | error fault =>
      cases fault with
      | partialNotFound missing =>
        cases hstore _ name missing hname
        intro state
        have hjournal : RenderEvent.missingPartial name :: state.journal
            = [.missingPartial name].reverse ++ state.journal := rfl
        exact .stops hjournal rfl rfl
      | _ => exact .fail _

/-- **A partial tag**, with the same room. -/
theorem isStrictOf_expandFrom
    (hstore : ∀ journal name missing,
      store journal name = .error (.partialNotFound missing) → missing = name)
    (room : Nat) {scope : Scope} (hscope : scope.NeverUnresolved) (name indent : Chars) :
    IsStrictOf (expandFrom (settings.withPolicy .raise) store room scope name indent)
      (expandFrom (settings.withPolicy .empty) store room scope name indent) := by
  induction room generalizing scope name indent with
  | zero =>
    unfold expandFrom
    refine (isStrictOf_loadFrom settings hstore name indent).bind fun kept _ => ?_
    cases kept with
    | none => exact .pure _
    | some document => exact (IsStrictOf.note rfl).bind fun _ _ => (IsStrictOf.fail _).deeper
  | succ room ih =>
    unfold expandFrom
    refine (isStrictOf_loadFrom settings hstore name indent).bind fun kept _ => ?_
    cases kept with
    | none => exact .pure _
    | some document =>
      refine (IsStrictOf.note rfl).bind fun _ _ => IsStrictOf.deeper (IsStrictOf.opened name ?_)
      exact isStrictOf_renderNodes (fun _ hinner name indent => ih hinner name indent)
        document.children hscope

end Partials

/-- **Failing at what is missing**, against printing nothing there, whatever was rendered before. If
nothing is told to be missing, both do the same; else the rendering that fails does so with what is
told first: a name as unresolved, a partial as not found. -/
theorem render_raise_eq (settings : RenderSettings) (store : ChangingStore) (node : Node)
    (scope : Scope)
    (hstore : ∀ journal name missing,
      store journal name = .error (.partialNotFound missing) → missing = name)
    (hscope : ∀ frame ∈ scope.frames, ∀ fault, frame.MayFail fault → fault.kind ≠ .resolution)
    (state : RenderState) :
    let strict := renderFrom (settings.withPolicy .raise) store node scope state
    let lenient := renderFrom (settings.withPolicy .empty) store node scope state
    ∃ told, lenient.2.journal = told.reverse ++ state.journal
      ∧ ((∀ event ∈ told, event.missing? = none) → strict = lenient)
      ∧ (∀ earlier name later, told = earlier ++ .missingName name :: later →
        (∀ event ∈ earlier, event.missing? = none) → strict.1 = .error (.unresolved name))
      ∧ ∀ earlier name later, told = earlier ++ .missingPartial name :: later →
        (∀ event ∈ earlier, event.missing? = none) →
        strict.1 = .error (.partialNotFound name) := by
  intro strict lenient
  have hrun : StrictRun state strict lenient :=
    isStrictOf_renderNode
      (fun _ hinner name indent => isStrictOf_expandFrom settings hstore _ hinner name indent)
      node hscope state
  generalize strict = strict, lenient = lenient at hrun ⊢
  cases hrun with
  | @same told hjournal hnone =>
    have hquiet : ∀ event ∈ told, event.missing? = none := firstMissing?_eq_none_iff.mp hnone
    refine ⟨told, hjournal, fun _ => rfl, ?_, ?_⟩
    · rintro earlier name later rfl -
      cases hquiet (.missingName name) (List.mem_append_right _ List.mem_cons_self)
    · rintro earlier name later rfl -
      cases hquiet (.missingPartial name) (List.mem_append_right _ List.mem_cons_self)
  | @stops _ told fault hjournal hfirst hfails =>
    refine ⟨told, hjournal, fun hquiet => ?_, ?_, ?_⟩
    · rw [firstMissing?_eq_none_iff.mpr hquiet] at hfirst
      cases hfirst
    · rintro earlier name later rfl hearlier
      rw [firstMissing?_of_first hearlier rfl] at hfirst
      cases hfirst
      exact hfails
    · rintro earlier name later rfl hearlier
      rw [firstMissing?_of_first hearlier rfl] at hfirst
      cases hfirst
      exact hfails

/-- A block for an object with an attribute that fails, and a partial that is missing before it. -/
theorem render_raise_eq_missing_partial :
    let settings : RenderSettings := ⟨.empty, .empty, some Escaper.html.apply, .whole 100⟩
    let store : ChangingStore := fun _ name => .error (.partialNotFound name)
    let node : Node := .document
      [.block ['r'] false [.inclusion ['p'] [], .interpolation ['b'] true],
        .interpolation ['x'] true]
    let scope := Scope.ofValue (.mapping [(.ofChars ['r'],
      .list [.object (.plain [] []) [(['b'], .error (.host .value []))]])])
    (∀ journal name missing,
        store journal name = .error (.partialNotFound missing) → missing = name)
      ∧ (∀ frame ∈ scope.frames, ∀ fault, frame.MayFail fault → fault.kind ≠ .resolution)
      ∧ (renderFrom (settings.withPolicy .empty) store node scope .fresh).1
        = .error (.host .value [])
      ∧ (renderFrom (settings.withPolicy .raise) store node scope .fresh).1
        = .error (.partialNotFound ['p']) := by
  intro settings store node scope
  have hstore : ∀ journal name missing,
      store journal name = .error (.partialNotFound missing) → missing = name := by
    intro journal name missing h
    cases h
    rfl
  have hreached : ∀ frame ∈ scope.frames, ∀ value, frame.Reaches value → value = frame
      ∨ value = .list [.object (.plain [] []) [(['b'], .error (.host .value []))]]
      ∨ value = .object (.plain [] []) [(['b'], .error (.host .value []))] := by
    intro frame hframe value hvalue
    cases List.mem_singleton.mp hframe
    obtain _ | _ | _ | _ | ⟨hentry, hvalue⟩ := hvalue
    · exact .inl rfl
    cases List.mem_singleton.mp hentry
    obtain _ | ⟨hitem, hvalue⟩ := hvalue
    · exact .inr (.inl rfl)
    cases List.mem_singleton.mp hitem
    cases hvalue with
    | self => exact .inr (.inr rfl)
    | attributeValue hattribute _ => cases List.mem_singleton.mp hattribute
  have hscope : ∀ frame ∈ scope.frames, ∀ fault, frame.MayFail fault →
      fault.kind ≠ .resolution := by
    intro frame hframe fault hfails
    have hkinds := hreached frame hframe
    cases List.mem_singleton.mp hframe
    cases hfails with
    | tooLong => decide
    | raised h =>
      obtain ⟨owner, name, howner, hmem⟩ := h
      rcases hkinds owner howner with rfl | rfl | rfl
      · cases hmem
      · cases hmem
      · cases List.mem_singleton.mp hmem
        decide
    | hidesClass h =>
      obtain ⟨host, attributes, howner, hclass⟩ := h
      rcases hkinds _ howner with heq | heq | heq <;> cases heq
      cases hclass
    | mapping h =>
      obtain ⟨host, holds, gives, name, howner, -⟩ := h
      rcases hkinds _ howner with heq | heq | heq <;> cases heq
  have hlenient : (renderFrom (settings.withPolicy .empty) store node scope .fresh).1
      = .error (.host .value []) := by
    simp only [settings, store, node, scope]
    decide +kernel
  obtain ⟨told, hjournal, -, -, hpartial⟩ :=
    render_raise_eq settings store node scope hstore hscope .fresh
  have htold : told = [.asked ['p'], .missingPartial ['p']] := by
    have hlatest : (renderFrom (settings.withPolicy .empty) store node scope .fresh).2.journal
        = [.missingPartial ['p'], .asked ['p']] := by
      simp only [settings, store, node, scope]
      decide +kernel
    rw [hlatest] at hjournal
    simpa [RenderState.fresh] using congrArg List.reverse hjournal.symm
  have hearlier : ∀ event ∈ [RenderEvent.asked ['p']], event.missing? = none := by
    intro event hevent
    cases List.mem_singleton.mp hevent
    rfl
  exact ⟨hstore, hscope, hlenient, hpartial [.asked ['p']] ['p'] [] htold hearlier⟩

end Mustache
