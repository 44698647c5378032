import Mustache.Proofs.Render.Cache
import Mustache.Proofs.Render.Uncached

/-!
# What the store is asked

A renderer that keeps nothing makes a request at every partial tag that it comes to. Rendering asks
for the names of those requests only that are **needed** (`Request.needed`): a request is left out
when an earlier one for the same name and indentation gave a document, be it in the same rendering
or in one before. That the name alone is the same is not enough; and a request that ended with a
missing partial, or with a text that is no template, makes no later one superfluous
(`askedNames_afterAll`).

The invariant is `RenderState.Tracks`: the state keeps the documents that the requests so far gave,
and its journal tells of the needed ones. At a partial tag both renderers go on with the same
document, so the invariant is kept at each tag, and along a tree by the law for walks.
-/

namespace Mustache

open RenderEvent Rendering

/-! ## Requests that are needed -/

namespace Request

/-- A document came of the request. -/
def gives (request : Request) : Bool :=
  match request.outcome with
  | .ok (some _) => true
  | _ => false

theorem gives_iff {request : Request} :
    request.gives = true ↔ ∃ document, request.outcome = .ok (some document) := by
  unfold gives
  constructor
  · intro h
    split at h
    next document houtcome => exact ⟨document, houtcome⟩
    · cases h
  · rintro ⟨document, houtcome⟩
    rw [houtcome]

/-- One of these requests had the same name and indentation and gave a document. -/
def answeredBy (request : Request) (earlier : List Request) : Bool :=
  earlier.any fun other => other.key == request.key && other.gives

theorem answeredBy_iff {request : Request} {earlier : List Request} :
    request.answeredBy earlier = true ↔ ∃ other ∈ earlier, other.key = request.key ∧
      ∃ document, other.outcome = .ok (some document) := by
  simp only [answeredBy, List.any_eq_true, Bool.and_eq_true, beq_iff_eq, gives_iff]

/-- What is kept of a request: the document, if it gave one. -/
def kept (request : Request) : List (PartialKey × Document) :=
  match request.outcome with
  | .ok (some document) => [(request.key, document)]
  | _ => []

theorem lookup_kept_append {request : Request} {cache : List (PartialKey × Document)}
    (hnone : cache.lookup request.key = none) (key : PartialKey) (document : Document) :
    (request.kept ++ cache).lookup key = some document
      ↔ (request.key = key ∧ request.outcome = .ok (some document))
        ∨ cache.lookup key = some document := by
  have hother : cache.lookup key = some document → request.key ≠ key := by
    rintro hlookup rfl
    rw [hnone] at hlookup
    cases hlookup
  unfold kept
  split
  next given houtcome =>
    rw [houtcome, List.singleton_append, List.lookup_cons]
    by_cases hkey : key = request.key
    · subst hkey
      simp [hnone]
    · simp [beq_false_of_ne hkey, Ne.symm hkey]
  next hgives =>
    rw [List.nil_append]
    constructor
    · exact .inr
    · rintro (⟨_, houtcome⟩ | hlookup)
      · exact absurd houtcome (hgives document)
      · exact hlookup

/-- **The requests that are needed**, latest first: all but those that an earlier request for the
same name and indentation has answered with a document. -/
def needed : List Request → List Request
  | [] => []
  | request :: earlier =>
    if request.answeredBy earlier then needed earlier else request :: needed earlier

/-- Requests that gave no document are needed all, when what comes of a request goes by its name and
indentation. -/
theorem filter_needed {read : PartialKey → Except Fault (Option Document)} {log : List Request}
    (hread : ∀ request ∈ log, request.outcome = read request.key) :
    (needed log).filter (fun request => !request.gives)
      = log.filter fun request => !request.gives := by
  induction log with
  | nil => rfl
  | cons request earlier ih =>
    have hrest := ih fun other hother => hread other (List.mem_cons_of_mem _ hother)
    rw [needed]
    split
    next hanswered =>
      obtain ⟨other, hother, hkey, document, houtcome⟩ := answeredBy_iff.mp hanswered
      have hsame : request.outcome = .ok (some document) := by
        rw [← houtcome, hread request List.mem_cons_self,
          hread other (List.mem_cons_of_mem _ hother), hkey]
      have hgives : request.gives = true := gives_iff.mpr ⟨document, hsame⟩
      rw [hrest, List.filter_cons_of_neg (by simp [hgives])]
    next => rw [List.filter_cons, List.filter_cons, hrest]

end Request

/-! ## The invariant -/

section Tracking

variable {settings : RenderSettings} {fetch : Chars → Except Fault Chars}

/-- **A state that is abreast of the requests so far**: it keeps the documents that they gave, and
its journal tells of those that were needed. -/
structure RenderState.Tracks (settings : RenderSettings) (fetch : Chars → Except Fault Chars)
    (state : RenderState) (log : List Request) : Prop where
  known : ∀ request ∈ log, request.outcome
    = (Direct.readPartial settings fetch request.key.1 request.key.2).outcome
  cache : ∀ key document, state.cache.lookup key = some document
    ↔ ∃ request ∈ log, request.key = key ∧ request.outcome = .ok (some document)
  asked : askedNames state.journal = (Request.needed log).map Request.name

theorem RenderState.tracks_fresh (settings : RenderSettings) (fetch : Chars → Except Fault Chars) :
    RenderState.fresh.Tracks settings fetch [] := by
  refine ⟨?_, ?_, rfl⟩
  · intro request hrequest
    cases hrequest
  · intro key document
    constructor
    · intro hlookup
      cases hlookup
    · rintro ⟨request, hrequest, _⟩
      cases hrequest

namespace RenderState.Tracks

variable {state : RenderState} {log : List Request}

/-- Nothing but the names asked for is looked at in the journal. -/
theorem note (h : state.Tracks settings fetch log) {event : RenderEvent}
    (hevent : event.asked? = none) :
    RenderState.Tracks settings fetch { state with journal := event :: state.journal } log := by
  refine ⟨h.known, h.cache, ?_⟩
  show List.filterMap asked? (event :: state.journal) = _
  rw [List.filterMap_cons_none hevent]
  exact h.asked

/-- How many expansions are open makes no difference. -/
theorem setDepth (h : state.Tracks settings fetch log) (depth : Nat) :
    RenderState.Tracks settings fetch { state with depth := depth } log :=
  ⟨h.known, h.cache, h.asked⟩

/-- A request that was answered before is not needed. -/
theorem answered (h : state.Tracks settings fetch log) {name indent : Chars} {document : Document}
    (hkept : state.cache.lookup (name, indent) = some document) :
    (Direct.readPartial settings fetch name indent).outcome = .ok (some document)
      ∧ state.Tracks settings fetch (⟨(name, indent), .ok (some document)⟩ :: log) := by
  obtain ⟨request, hrequest, hkey, houtcome⟩ := (h.cache _ _).mp hkept
  have hread : (Direct.readPartial settings fetch name indent).outcome = .ok (some document) := by
    rw [← houtcome, h.known request hrequest, hkey]
  refine ⟨hread, ?_, ?_, ?_⟩
  · intro other hother
    rcases List.mem_cons.mp hother with rfl | hlog
    · exact hread.symm
    · exact h.known other hlog
  · intro key document'
    rw [h.cache]
    constructor
    · rintro ⟨other, hother, hsame⟩
      exact ⟨other, List.mem_cons_of_mem _ hother, hsame⟩
    · rintro ⟨other, hother, hsame, hdocument⟩
      rcases List.mem_cons.mp hother with rfl | hlog
      · exact ⟨request, hrequest, hkey.trans hsame, houtcome.trans hdocument⟩
      · exact ⟨other, hlog, hsame, hdocument⟩
  · have hanswered : Request.answeredBy ⟨(name, indent), .ok (some document)⟩ log = true :=
      Request.answeredBy_iff.mpr ⟨request, hrequest, hkey, document, houtcome⟩
    rw [Request.needed, if_pos hanswered]
    exact h.asked

/-- **A request that was not answered before is needed**, and its document is kept, if it gives
one. -/
theorem asking (h : state.Tracks settings fetch log) {request : Request}
    (hnone : state.cache.lookup request.key = none)
    (houtcome : request.outcome
      = (Direct.readPartial settings fetch request.key.1 request.key.2).outcome)
    {events : List RenderEvent} (hevents : askedNames events = [request.name]) :
    RenderState.Tracks settings fetch
      ⟨state.depth, request.kept ++ state.cache, events ++ state.journal⟩ (request :: log) := by
  refine ⟨?_, ?_, ?_⟩
  · intro other hother
    rcases List.mem_cons.mp hother with rfl | hlog
    · exact houtcome
    · exact h.known other hlog
  · intro key document
    rw [Request.lookup_kept_append hnone, h.cache]
    constructor
    · rintro (hfound | ⟨other, hother, hfound⟩)
      · exact ⟨request, List.mem_cons_self, hfound⟩
      · exact ⟨other, List.mem_cons_of_mem _ hother, hfound⟩
    · rintro ⟨other, hother, hfound⟩
      rcases List.mem_cons.mp hother with rfl | hlog
      · exact .inl hfound
      · exact .inr ⟨other, hlog, hfound⟩
  · have hneeded : ¬ request.answeredBy log = true := by
      intro hanswered
      obtain ⟨other, hother, hkey, document, hgave⟩ := Request.answeredBy_iff.mp hanswered
      have hlookup := (h.cache request.key document).mpr ⟨other, hother, hkey, hgave⟩
      rw [hnone] at hlookup
      cases hlookup
    rw [Request.needed, if_neg hneeded, List.map_cons, ← h.asked]
    show List.filterMap asked? (events ++ state.journal) = _
    rw [List.filterMap_append]
    exact congrArg (· ++ _) hevents

end RenderState.Tracks

/-! ## Rendering asks for what is needed -/

/-- **A rendering keeps up with requests**: from a state that is abreast of those so far it comes to
the same end, in a state abreast of them all. -/
def KeepsUp (settings : RenderSettings) (fetch : Chars → Except Fault Chars) {α : Type}
    (rendering : Rendering α) (asking : Asking α) : Prop :=
  ∀ state log, state.Tracks settings fetch log →
    (rendering state).1 = (asking log).1
      ∧ (rendering state).2.Tracks settings fetch (asking log).2

namespace KeepsUp

variable {α β : Type}

theorem pure (a : α) : KeepsUp settings fetch (Pure.pure a) (Pure.pure a) :=
  fun _ _ htracks => ⟨rfl, htracks⟩

theorem bind {first : Rendering α} {first' : Asking α} {second : α → Rendering β}
    {second' : α → Asking β} (hfirst : KeepsUp settings fetch first first')
    (hsecond : ∀ a, KeepsUp settings fetch (second a) (second' a)) :
    KeepsUp settings fetch (first >>= second) (first' >>= second') := by
  intro state log htracks
  obtain ⟨houtcome, hmiddle⟩ := hfirst state log htracks
  cases hresult : first state with
  | mk outcome after =>
    cases hresult' : first' log with
    | mk outcome' log' =>
      rw [hresult, hresult'] at houtcome hmiddle
      cases houtcome
      cases outcome with
      | error fault =>
        have hrun : (first >>= second) state = (.error fault, after) := by
          simp only [Bind.bind, hresult]
        rw [hrun, Asking.bind_of_error hresult']
        exact ⟨rfl, hmiddle⟩
      | ok a =>
        have hrun : (first >>= second) state = second a after := by
          simp only [Bind.bind, hresult]
        rw [hrun, Asking.bind_of_ok hresult']
        exact hsecond a after log' hmiddle

theorem lift (outcome : Except Fault α) :
    KeepsUp settings fetch (Rendering.lift outcome) (Asking.lift outcome) :=
  fun _ _ htracks => ⟨rfl, htracks⟩

/-- An event that is no question to the store makes no request. -/
theorem note_bind {event : RenderEvent} (hevent : event.asked? = none)
    {rest : Unit → Rendering α} {body' : Asking α} (h : KeepsUp settings fetch (rest ()) body') :
    KeepsUp settings fetch (Rendering.note event >>= rest) body' :=
  fun _ log htracks => h _ log (htracks.note hevent)

/-- **One expansion deeper and back**, told of in the journal or not. -/
theorem deeper {body : Rendering α} {body' : Asking α} (h : KeepsUp settings fetch body body') :
    KeepsUp settings fetch (Rendering.deeper body) body' := by
  intro state log htracks
  obtain ⟨houtcome, hafter⟩ := h _ log (htracks.setDepth (state.depth + 1))
  exact ⟨houtcome, hafter.setDepth _⟩

theorem opened (name : Chars) {body : Rendering α} {body' : Asking α}
    (h : KeepsUp settings fetch body body') :
    KeepsUp settings fetch (Rendering.opened name body) body' := by
  intro state log htracks
  have hopened : (RenderEvent.opened name).asked? = none := rfl
  obtain ⟨houtcome, hafter⟩ := h _ log (htracks.note hopened)
  exact ⟨houtcome, hafter.note rfl⟩

/-- The correspondence of the two ways to render. -/
def correspondence (settings : RenderSettings) (fetch : Chars → Except Fault Chars) :
    Correspondence Rendering Asking :=
  ⟨KeepsUp settings fetch, KeepsUp.pure, KeepsUp.bind⟩

end KeepsUp

theorem keepsUp_resolveName (scope : Scope) (name : Chars) :
    KeepsUp settings fetch (resolveName settings scope name)
      (Uncached.resolveName settings scope name) := by
  intro state log htracks
  unfold resolveName Uncached.resolveName Direct.resolveName
  cases scope.resolve name with
  | ok value => exact ⟨rfl, htracks⟩
  | error fault =>
    cases fault with
    | unresolved missing =>
      by_cases hpolicy : settings.missingVariables = .raise
      · simp only [hpolicy, if_true]
        exact ⟨rfl, htracks⟩
      · simp only [hpolicy, if_false]
        exact ⟨rfl, htracks.note rfl⟩
    | _ => exact ⟨rfl, htracks⟩

/-- **Reading a partial asks for it once**, has the outcome of reading it directly, and keeps the
document. -/
theorem readPartial_run (settings : RenderSettings) (fetch : Chars → Except Fault Chars)
    (name indent : Chars) (state : RenderState) :
    let request : Request :=
      ⟨(name, indent), (Direct.readPartial settings fetch name indent).outcome⟩
    ∃ events, askedNames events = [name] ∧ readPartial settings fetch name indent state
      = (request.outcome,
        ⟨state.depth, request.kept ++ state.cache, events ++ state.journal⟩) := by
  intro request
  have hrequest : request
    = ⟨(name, indent), (Direct.readPartial settings fetch name indent).outcome⟩ := rfl
  clear_value request
  unfold Direct.readPartial at hrequest
  rw [Account.bind_of_ok rfl] at hrequest
  unfold readPartial
  cases hfetch : fetch name with
  | ok text =>
    rw [hfetch] at hrequest
    subst hrequest
    refine ⟨[.asked name], rfl, ?_⟩
    dsimp only
    cases Document.parse (indentText indent text) <;> rfl
  | error fault =>
    rw [hfetch] at hrequest
    cases fault with
    | partialNotFound missing =>
      by_cases hpolicy : settings.missingPartials = .raise
      · simp only [hpolicy, if_true] at hrequest ⊢
        subst hrequest
        exact ⟨[.asked name], rfl, rfl⟩
      · simp only [hpolicy, if_false] at hrequest ⊢
        subst hrequest
        exact ⟨[.missingPartial name, .asked name], rfl, rfl⟩
    | _ =>
      subst hrequest
      exact ⟨[.asked name], rfl, rfl⟩

/-- **A partial that is kept** is one whose request is not needed; any other is asked for. -/
theorem keepsUp_loadPartial (name indent : Chars) :
    KeepsUp settings fetch (loadPartial settings fetch name indent)
      (Uncached.readPartial settings fetch name indent) := by
  intro state log htracks
  cases hkept : state.cache.lookup (name, indent) with
  | some document =>
    have hrun : loadPartial settings fetch name indent state = (.ok (some document), state) := by
      simp only [loadPartial, Bind.bind, kept?, hkept]
      rfl
    obtain ⟨hread, hanswered⟩ := htracks.answered hkept
    unfold Uncached.readPartial
    rw [hrun, hread]
    exact ⟨rfl, hanswered⟩
  | none =>
    have hrun : loadPartial settings fetch name indent state
        = readPartial settings fetch name indent state := by
      simp only [loadPartial, Bind.bind, kept?, hkept]
    obtain ⟨events, hevents, hread⟩ := readPartial_run settings fetch name indent state
    rw [hrun, hread]
    exact ⟨rfl, htracks.asking hkept rfl hevents⟩

theorem keepsUp_walk {expansion : Expansion} {inclusion : Scope → Chars → Chars → Asking Chars}
    (h : ∀ scope name indent,
      KeepsUp settings fetch (expansion scope name indent) (inclusion scope name indent)) :
    Walk.Corresponds (KeepsUp.correspondence settings fetch) (Rendering.walk settings expansion)
      (Uncached.walk settings inclusion) where
  resolve := keepsUp_resolveName
  items value := KeepsUp.lift value.items
  print escaped value := KeepsUp.lift (printValue settings escaped value)
  inclusion := h
  call h := h

variable (settings fetch) in
theorem keepsUp_expand (room : Nat) (scope : Scope) (name indent : Chars) :
    KeepsUp settings fetch (expand settings fetch room scope name indent)
      (Uncached.expand settings fetch room scope name indent) := by
  induction room generalizing scope name indent with
  | zero =>
    unfold expand Uncached.expand
    refine (keepsUp_loadPartial name indent).bind ?_
    intro kept
    cases kept with
    | none => exact .pure []
    | some document =>
      have hfails : KeepsUp settings fetch (Rendering.fail (.tooDeep name settings.limit))
          (Asking.lift (.error (.tooDeep name settings.limit) : Except Fault Chars)) := .lift _
      exact .note_bind rfl hfails.deeper
  | succ room ih =>
    unfold expand Uncached.expand
    refine (keepsUp_loadPartial name indent).bind ?_
    intro kept
    cases kept with
    | none => exact .pure []
    | some document =>
      have hbody := Walk.corresponds_nodes (keepsUp_walk ih) document.children scope
      rw [Rendering.walk_nodes] at hbody
      exact .note_bind rfl (KeepsUp.opened name hbody).deeper

/-- **A rendering with no open expansion keeps up** with the renderer that keeps nothing. -/
theorem keepsUp_render (node : Node) (scope : Scope) {state : RenderState} {log : List Request}
    (htracks : state.Tracks settings fetch log) (hdepth : state.depth = 0) :
    (render settings fetch node scope state).1
        = (Uncached.render settings fetch node scope log).1
      ∧ (render settings fetch node scope state).2.Tracks settings fetch
        (Uncached.render settings fetch node scope log).2 := by
  have hroom : (settings.limit.bound - (0 : Nat)).toNat = settings.limit.bound.toNat := by
    rw [Int.natCast_zero, Int.sub_zero]
  have hwalk := keepsUp_walk (keepsUp_expand settings fetch settings.limit.bound.toNat)
  have hnode := Walk.corresponds_node hwalk node scope state log htracks
  rw [Rendering.walk_node] at hnode
  unfold render
  rw [hdepth, hroom]
  exact hnode

end Tracking

/-! ## Renderings one after the other -/

section Calls

variable (settings : RenderSettings) (fetch : Chars → Except Fault Chars)

/-- **After any renderings the state is abreast of their requests**, by induction on the
renderings. -/
theorem afterAll_tracks (calls : List (Node × Scope)) :
    (afterAll settings fetch calls).Tracks settings fetch
      (Uncached.requests settings fetch calls) := by
  induction calls using List.reverseRecOn with
  | nil => exact RenderState.tracks_fresh settings fetch
  | append_singleton calls call ih =>
    obtain ⟨_, hdepth⟩ := afterAll_sound settings fetch calls
    unfold afterAll at ih hdepth ⊢
    unfold Uncached.requests at ih ⊢
    rw [List.foldl_append, List.foldl_append]
    exact (keepsUp_render call.1 call.2 ih hdepth).2

/-- **The store is asked no more than needed.** In the course of any renderings with one renderer,
however each ends, the store is asked for the names of just those requests that are needed, in this
order; a renderer that keeps nothing makes all the requests, which are those of the direct
renderings. Every request that gave no document is needed. -/
theorem askedNames_afterAll (calls : List (Node × Scope)) :
    let requests := Uncached.requests settings fetch calls
    askedNames (afterAll settings fetch calls).journal
        = (Request.needed requests).map Request.name
      ∧ requests.map Request.name
        = (calls.flatMap fun call =>
            askedNames (Direct.render settings fetch call.1 call.2).told).reverse
      ∧ (Request.needed requests).filter (fun request => !request.gives)
        = requests.filter fun request => !request.gives := by
  intro requests
  have htracks := afterAll_tracks settings fetch calls
  refine ⟨htracks.asked, Uncached.map_name_requests settings fetch calls, ?_⟩
  exact @Request.filter_needed
    (fun key => (Direct.readPartial settings fetch key.1 key.2).outcome) _ htracks.known

end Calls

end Mustache
