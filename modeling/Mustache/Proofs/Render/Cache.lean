import Mustache.Proofs.Render.Walk

/-!
# What a rendering keeps is not seen

A rendering keeps the documents of partials and counts the expansions that are open, over faults and
from one rendering to the next. None of this is seen from outside: after any earlier renderings, a
rendering is the direct one (`render_afterAll`), and no expansion is left open.

The invariant of the state is `RenderState.Sound`: every document kept is what reading its partial
anew gives. A rendering **follows** an account when, from a sound state, it has the outcome of the
account, leaves a sound state of the same depth, and adds to the journal what the account tells.
Only the store is asked less often. Following is kept by each way of putting renderings together, so
it holds of a node by the law for walks (`follows_renderNode`), and is shown for a partial along the
room (`follows_expand`).
-/

namespace Mustache

/-- The event is not a question to the store. -/
def RenderEvent.isReport : RenderEvent → Bool
  | .asked _ => false
  | _ => true

/-- **What is reported** among events: names and partials that are missing, and expansions opened
and closed, but no questions to the store. -/
def RenderEvent.reports (events : List RenderEvent) : List RenderEvent := events.filter isReport

open RenderEvent Rendering

/-- **A sound state**: each document kept is what reading its partial anew gives. -/
def RenderState.Sound (fetch : Chars → Except Fault Chars) (state : RenderState) : Prop :=
  ∀ name indent document, state.cache.lookup (name, indent) = some document →
    ∃ text, fetch name = .ok text ∧ Document.parse (indentText indent text) = .ok document

theorem RenderState.sound_fresh (fetch : Chars → Except Fault Chars) :
    RenderState.fresh.Sound fetch := by
  intro name indent document h
  cases h

/-- **What came of a rendering follows an account**, from the state where it began. -/
structure FollowsFrom {α : Type} (fetch : Chars → Except Fault Chars) (state : RenderState)
    (result : Except Fault α × RenderState) (account : Account α) : Prop where
  outcome : result.1 = account.outcome
  sound : result.2.Sound fetch
  depth : result.2.depth = state.depth
  journal : ∃ events, result.2.journal = events.reverse ++ state.journal
    ∧ reports events = reports account.told

/-- **A rendering follows an account**, from every sound state. -/
def Follows {α : Type} (fetch : Chars → Except Fault Chars) (rendering : Rendering α)
    (account : Account α) : Prop :=
  ∀ state, state.Sound fetch → FollowsFrom fetch state (rendering state) account

namespace Follows

variable {α β : Type} {fetch : Chars → Except Fault Chars}

/-! ## Ways of putting renderings together -/

/-- A rendering that leaves the state alone and has nothing to tell. -/
theorem of_outcome (outcome : Except Fault α) :
    Follows fetch (fun state => (outcome, state)) ⟨outcome, []⟩ :=
  fun _ hsound => ⟨rfl, hsound, rfl, [], rfl, rfl⟩

theorem pure (a : α) : Follows fetch (pure a) (pure a) := of_outcome (.ok a)

theorem fail (fault : Fault) :
    Follows fetch (Rendering.fail fault : Rendering α) (Account.fail fault) :=
  of_outcome (.error fault)

theorem lift (outcome : Except Fault α) :
    Follows fetch (Rendering.lift outcome) (Account.lift outcome) :=
  of_outcome outcome

theorem note (event : RenderEvent) : Follows fetch (Rendering.note event) (Account.note event) :=
  fun _ hsound => ⟨rfl, hsound, rfl, [event], rfl, rfl⟩

/-- **One rendering after the other**, which follows wherever the first has an answer. -/
theorem bind {first : Rendering α} {account : Account α} {second : α → Rendering β}
    {next : α → Account β} (hfirst : Follows fetch first account)
    (hsecond : ∀ a, account.outcome = .ok a → Follows fetch (second a) (next a)) :
    Follows fetch (first >>= second) (account >>= next) := by
  intro state hsound
  obtain ⟨houtcome, hmiddle, hdepth, events, hjournal, hreports⟩ := hfirst state hsound
  cases hresult : first state with
  | mk outcome middle =>
    rw [hresult] at houtcome hmiddle hdepth hjournal
    cases outcome with
    | error fault =>
      have hrun : (first >>= second) state = (.error fault, middle) := by
        simp only [Bind.bind, hresult]
      rw [hrun, Account.bind_of_error houtcome.symm]
      exact ⟨rfl, hmiddle, hdepth, events, hjournal, hreports⟩
    | ok a =>
      have hrun : (first >>= second) state = second a middle := by
        simp only [Bind.bind, hresult]
      obtain ⟨houtcome', hafter, hdepth', events', hjournal', hreports'⟩ :=
        hsecond a houtcome.symm middle hmiddle
      rw [hrun, Account.bind_of_ok houtcome.symm]
      refine ⟨houtcome', hafter, hdepth'.trans hdepth, events ++ events', ?_, ?_⟩
      · rw [hjournal', hjournal, List.reverse_append, List.append_assoc]
      · unfold reports at hreports hreports' ⊢
        rw [List.filter_append, List.filter_append, hreports, hreports']

/-- **One expansion deeper and back**, however the body ends. -/
theorem deeper {body : Rendering α} {account : Account α} (h : Follows fetch body account) :
    Follows fetch (Rendering.deeper body) account := by
  intro state hsound
  obtain ⟨houtcome, hafter, hdepth, events, hjournal, hreports⟩ :=
    h { state with depth := state.depth + 1 } hsound
  refine ⟨houtcome, hafter, ?_, events, hjournal, hreports⟩
  show (body { state with depth := state.depth + 1 }).2.depth - 1 = state.depth
  rw [hdepth]
  show state.depth + 1 - 1 = state.depth
  omega

/-- The events around an expansion are told, however the body ends. -/
theorem opened {body : Rendering α} {account : Account α} (name : Chars)
    (h : Follows fetch body account) :
    Follows fetch (Rendering.opened name body) (account.opened name) := by
  intro state hsound
  obtain ⟨houtcome, hafter, hdepth, events, hjournal, hreports⟩ :=
    h { state with journal := .opened name :: state.journal } hsound
  refine ⟨houtcome, hafter, hdepth, .opened name :: (events ++ [.closed]), ?_, ?_⟩
  · show RenderEvent.closed :: (body { state with journal := _ }).2.journal = _
    rw [hjournal]
    simp
  · show reports (.opened name :: (events ++ [.closed]))
      = reports (.opened name :: (account.told ++ [.closed]))
    unfold reports at hreports ⊢
    rw [List.filter_cons, List.filter_cons, List.filter_append, List.filter_append, hreports]

/-- Keeping a document that was read from its partial is not seen. -/
theorem remember {name indent text : Chars} {document : Document} (hfetch : fetch name = .ok text)
    (hparse : Document.parse (indentText indent text) = .ok document) :
    Follows fetch (Rendering.remember (name, indent) document) (Pure.pure ()) := by
  intro state hsound
  refine ⟨rfl, ?_, rfl, [], rfl, rfl⟩
  intro name' indent' document' hlookup
  by_cases hkey : (name', indent') = (name, indent)
  · cases hkey
    have hfound : some document = some document' := by
      rw [← hlookup]
      show _ = List.lookup (name, indent) (((name, indent), document) :: state.cache)
      rw [List.lookup_cons_self]
    cases hfound
    exact ⟨text, hfetch, hparse⟩
  · refine hsound name' indent' document' ?_
    rw [← hlookup]
    show _ = List.lookup (name', indent') (((name, indent), document) :: state.cache)
    rw [List.lookup_cons, beq_false_of_ne hkey]

end Follows

/-! ## A node -/

section Nodes

variable {fetch : Chars → Except Fault Chars} {settings : RenderSettings} {expansion : Expansion}
  {direct : Direct.Expansion}

theorem follows_resolveName (scope : Scope) (name : Chars) :
    Follows fetch (resolveName settings scope name) (Direct.resolveName settings scope name) := by
  unfold resolveName Direct.resolveName
  cases scope.resolve name with
  | ok value => exact .pure value
  | error fault =>
    cases fault with
    | unresolved missing =>
      by_cases hpolicy : settings.missingVariables = .raise
      · simp only [hpolicy, if_true]
        exact .fail _
      · simp only [hpolicy, if_false]
        exact (Follows.note _).bind fun _ _ => .pure _
    | _ => exact .fail _

/-- The correspondence of a rendering with an account. -/
def Follows.correspondence (fetch : Chars → Except Fault Chars) :
    Correspondence Rendering Account :=
  ⟨Follows fetch, Follows.pure, fun hfirst hsecond => hfirst.bind fun a _ => hsecond a⟩

theorem follows_walk
    (h : ∀ scope name indent,
      Follows fetch (expansion scope name indent) (direct scope name indent)) :
    Walk.Corresponds (Follows.correspondence fetch) (Rendering.walk settings expansion)
      (Direct.walk settings direct) where
  resolve := follows_resolveName
  items value := Follows.lift value.items
  print escaped value := Follows.lift (printValue settings escaped value)
  inclusion := h
  call hbody := hbody

/-- **A node is rendered as it is directly**, when partial tags are. -/
theorem follows_renderNode
    (h : ∀ scope name indent,
      Follows fetch (expansion scope name indent) (direct scope name indent))
    (node : Node) (scope : Scope) :
    Follows fetch (renderNode settings expansion node scope)
      (Direct.renderNode settings direct node scope) := by
  rw [← Rendering.walk_node, ← Direct.walk_node]
  exact Walk.corresponds_node (follows_walk h) node scope

/-- Nodes are rendered one after the other as they are directly. -/
theorem follows_renderNodes
    (h : ∀ scope name indent,
      Follows fetch (expansion scope name indent) (direct scope name indent))
    (nodes : List Node) (scope : Scope) :
    Follows fetch (renderNodes settings expansion nodes scope)
      (Direct.renderNodes settings direct nodes scope) := by
  rw [← Rendering.walk_nodes, ← Direct.walk_nodes]
  exact Walk.corresponds_nodes (follows_walk h) nodes scope

end Nodes

/-! ## A partial -/

section Partials

variable (settings : RenderSettings) (fetch : Chars → Except Fault Chars)

/-- A partial that is not kept is read anew. -/
theorem follows_readPartial (name indent : Chars) :
    Follows fetch (readPartial settings fetch name indent)
      (Direct.readPartial settings fetch name indent) := by
  unfold readPartial Direct.readPartial
  refine (Follows.note _).bind fun _ _ => ?_
  cases hfetch : fetch name with
  | ok text =>
    refine (Follows.lift _).bind fun document hparse => ?_
    exact (Follows.remember hfetch hparse).bind fun _ _ => .pure _
  | error fault =>
    cases fault with
    | partialNotFound missing =>
      by_cases hpolicy : settings.missingPartials = .raise
      · simp only [hpolicy, if_true]
        exact .fail _
      · simp only [hpolicy, if_false]
        exact (Follows.note _).bind fun _ _ => .pure _
    | _ => exact .fail _

/-- **A partial kept is the partial read anew.** -/
theorem follows_loadPartial (name indent : Chars) :
    Follows fetch (loadPartial settings fetch name indent)
      (Direct.readPartial settings fetch name indent) := by
  intro state hsound
  cases hkept : state.cache.lookup (name, indent) with
  | none =>
    have hrun : loadPartial settings fetch name indent state
        = readPartial settings fetch name indent state := by
      simp only [loadPartial, bind, kept?, hkept]
    rw [hrun]
    exact follows_readPartial settings fetch name indent state hsound
  | some document =>
    obtain ⟨text, hfetch, hparse⟩ := hsound name indent document hkept
    have hrun : loadPartial settings fetch name indent state = (.ok (some document), state) := by
      simp only [loadPartial, bind, kept?, hkept]
      rfl
    have haccount : Direct.readPartial settings fetch name indent
        = ⟨.ok (some document), [.asked name]⟩ := by
      simp only [Direct.readPartial, hfetch, hparse]
      rfl
    rw [hrun, haccount]
    exact ⟨rfl, hsound, rfl, [], rfl, rfl⟩

/-- **A partial tag means what it means directly**, with the same room. -/
theorem follows_expand (room : Nat) (scope : Scope) (name indent : Chars) :
    Follows fetch (expand settings fetch room scope name indent)
      (Direct.expand settings fetch room scope name indent) := by
  induction room generalizing scope name indent with
  | zero =>
    unfold expand Direct.expand
    refine (follows_loadPartial settings fetch name indent).bind fun kept _ => ?_
    cases kept with
    | none => exact .pure _
    | some document => exact (Follows.note _).bind fun _ _ => (Follows.fail _).deeper
  | succ room ih =>
    unfold expand Direct.expand
    refine (follows_loadPartial settings fetch name indent).bind fun kept _ => ?_
    cases kept with
    | none => exact .pure _
    | some document =>
      refine (Follows.note _).bind fun _ _ => ?_
      exact ((follows_renderNodes ih document.children scope).opened name).deeper

end Partials

/-! ## Renderings one after the other -/

/-- **The state after earlier renderings**: of these nodes in these scopes, however each ended. -/
def afterAll (settings : RenderSettings) (fetch : Chars → Except Fault Chars)
    (calls : List (Node × Scope)) : RenderState :=
  calls.foldl (fun state call => (render settings fetch call.1 call.2 state).2) .fresh

/-- **A rendering with no open expansion follows the direct one.** -/
theorem followsFrom_render (settings : RenderSettings) (fetch : Chars → Except Fault Chars)
    (node : Node) (scope : Scope) {state : RenderState} (hsound : state.Sound fetch)
    (hdepth : state.depth = 0) :
    FollowsFrom fetch state (render settings fetch node scope state)
      (Direct.render settings fetch node scope) := by
  have hroom : (settings.limit.bound - (0 : Nat)).toNat = settings.limit.bound.toNat := by
    rw [Int.natCast_zero, Int.sub_zero]
  unfold render Direct.render
  rw [hdepth, hroom]
  exact follows_renderNode (follows_expand settings fetch _) node scope state hsound

/-- **Earlier renderings leave a sound state with no open expansion.** -/
theorem afterAll_sound (settings : RenderSettings) (fetch : Chars → Except Fault Chars)
    (calls : List (Node × Scope)) :
    (afterAll settings fetch calls).Sound fetch ∧ (afterAll settings fetch calls).depth = 0 := by
  -- one rendering keeps both, from whatever state it begins in
  have hrun : ∀ state : RenderState, state.Sound fetch → state.depth = 0 →
      let after := calls.foldl
        (fun state call => (render settings fetch call.1 call.2 state).2) state
      after.Sound fetch ∧ after.depth = 0 := by
    induction calls with
    | nil => exact fun state hsound hdepth => ⟨hsound, hdepth⟩
    | cons call calls ih =>
      intro state hsound hdepth
      have hstep := followsFrom_render settings fetch call.1 call.2 hsound hdepth
      exact ih _ hstep.sound (hstep.depth.trans hdepth)
  exact hrun .fresh (RenderState.sound_fresh fetch) rfl

/-- **Whatever was rendered before, a rendering is the direct one**: it has the same outcome and
reports the same, and leaves no expansion open. -/
theorem render_afterAll (settings : RenderSettings) (fetch : Chars → Except Fault Chars)
    (calls : List (Node × Scope)) (node : Node) (scope : Scope) :
    let before := afterAll settings fetch calls
    let result := render settings fetch node scope before
    let direct := Direct.render settings fetch node scope
    result.1 = direct.outcome
      ∧ (∃ events, result.2.journal = events.reverse ++ before.journal
        ∧ reports events = reports direct.told)
      ∧ result.2.depth = 0 := by
  intro before result direct
  obtain ⟨hsound, hdepth⟩ := afterAll_sound settings fetch calls
  have hfollows := followsFrom_render settings fetch node scope hsound hdepth
  exact ⟨hfollows.outcome, hfollows.journal, hfollows.depth.trans hdepth⟩

end Mustache
