import Mustache.Proofs.Node.Nesting
import Mustache.Proofs.Render.Law
import Mustache.Proofs.Render.Walk

/-!
# The limit of depth

The limit of depth cuts a rendering off and does nothing else (`render_withLimit`). The journal
tells how many expansions are open at a time: those opened so far, less those closed
(`RenderEvent.openAfter`). A rendering with so much room opens at most that many on top of those it
finds open, and closes all it has opened (`WithinRoom`). A fault for want of room comes when all
room is used up, and then the open expansions are closed and nothing else happens (`CutOff`). Both
are one law of rendering.

With more room a rendering does the same as with less, unless the latter fails for want of room
(`IsCutOf`). This relates two renderings and is no law of one; it holds along a tree by the law for
walks, and is shown for a partial along the room.
-/

namespace Mustache

/-! ## How many expansions are open -/

namespace RenderEvent

/-- What an event adds to the number of open expansions. -/
def change : RenderEvent → Int
  | .opened _ => 1
  | .closed => -1
  | .asked _ | .missingName _ | .missingPartial _ | .loaded _ => 0

/-- **How many expansions are open** after the events, on top of those before. -/
def openAfter : List RenderEvent → Int
  | [] => 0
  | event :: events => event.change + openAfter events

@[simp]
theorem openAfter_nil : openAfter [] = 0 := rfl

@[simp]
theorem openAfter_cons (event : RenderEvent) (events : List RenderEvent) :
    openAfter (event :: events) = event.change + openAfter events := rfl

@[simp]
theorem openAfter_append (left right : List RenderEvent) :
    openAfter (left ++ right) = openAfter left + openAfter right := by
  induction left with
  | nil => exact (Int.zero_add _).symm
  | cons event left ih => rw [List.cons_append, openAfter_cons, openAfter_cons, ih, Int.add_assoc]

@[simp]
theorem change_opened (name : Chars) : (RenderEvent.opened name).change = 1 := rfl

@[simp]
theorem change_closed : RenderEvent.closed.change = -1 := rfl

/-- A remark opens and closes nothing. -/
theorem change_of_isRemark {event : RenderEvent} (h : event.IsRemark) : event.change = 0 := by
  cases event <;> first | rfl | exact absurd h id

end RenderEvent

open RenderEvent

/-- **Events keep within the room**: at no time are more expansions open, and at the end those that
were opened are closed. -/
structure WithinRoom (room : Nat) (told : List RenderEvent) : Prop where
  most : ∀ earlier later, told = earlier ++ later → openAfter earlier ≤ room
  settled : openAfter told = 0

namespace WithinRoom

variable {room : Nat} {told others : List RenderEvent}

theorem nil (room : Nat) : WithinRoom room [] := by
  refine ⟨fun earlier later h => ?_, rfl⟩
  rw [(List.append_eq_nil_iff.mp h.symm).1]
  exact Int.natCast_nonneg room

theorem append (h : WithinRoom room told) (hothers : WithinRoom room others) :
    WithinRoom room (told ++ others) := by
  refine ⟨fun earlier later hsplit => ?_, by simp [h.settled, hothers.settled]⟩
  rcases List.append_eq_append_iff.mp hsplit with ⟨more, rfl, hmore⟩ | ⟨rest, hrest, -⟩
  · rw [openAfter_append, h.settled, Int.zero_add]
    exact hothers.most more later hmore
  · exact h.most earlier rest hrest

theorem remark {event : RenderEvent} (h : event.IsRemark) : WithinRoom room [event] := by
  have hchange := change_of_isRemark h
  refine ⟨fun earlier later hsplit => ?_, by simp [hchange]⟩
  rcases List.cons_eq_append_iff.mp hsplit with ⟨rfl, -⟩ | ⟨rest, rfl, hrest⟩
  · exact Int.natCast_nonneg room
  · rw [(List.append_eq_nil_iff.mp hrest.symm).1, openAfter_cons, hchange]
    exact Int.natCast_nonneg room

/-- The events of an expansion take one level of room. -/
theorem opened (name : Chars) (h : WithinRoom room told) :
    WithinRoom (room + 1) (.opened name :: (told ++ [.closed])) := by
  refine ⟨fun earlier later hsplit => ?_, by simp [h.settled]⟩
  rcases List.cons_eq_append_iff.mp hsplit with ⟨rfl, -⟩ | ⟨inside, rfl, hinside⟩
  · exact Int.natCast_nonneg _
  · rcases List.append_eq_append_iff.mp hinside with ⟨last, rfl, hlast⟩ | ⟨rest, hrest, -⟩
    · -- all events of the body, and then perhaps the last one
      rcases List.cons_eq_append_iff.mp hlast with ⟨rfl, -⟩ | ⟨behind, rfl, hbehind⟩
      · rw [openAfter_cons, openAfter_append, h.settled]
        exact Int.ofNat_le.mpr (Nat.le_add_left 1 room)
      · rw [(List.append_eq_nil_iff.mp hbehind.symm).1, openAfter_cons, openAfter_append, h.settled]
        exact Int.natCast_nonneg _
    · have hmost := h.most inside rest hrest
      rw [openAfter_cons, change_opened]
      omega

end WithinRoom

/-- **A fault for want of room**: a partial is there, and was loaded when the room was used up; all
that is told afterwards is that the open expansions are closed. -/
def CutOff (settings : RenderSettings) (store : ChangingStore) (root : Node) (room : Nat)
    (fault : Fault) (told : List RenderEvent) : Prop :=
  ∃ name indent document earlier, fault = .tooDeep name settings.limit
    ∧ root.Reaches store (.inclusion name indent) ∧ store.Gives name indent document
    ∧ told = earlier ++ .loaded name :: List.replicate room .closed ∧ openAfter earlier = room

namespace CutOff

variable {settings : RenderSettings} {store : ChangingStore} {root : Node} {room : Nat}
  {fault : Fault} {told : List RenderEvent}

/-- Events that settle before make no difference. -/
theorem after (h : CutOff settings store root room fault told) {before : List RenderEvent}
    (hbefore : openAfter before = 0) : CutOff settings store root room fault (before ++ told) := by
  obtain ⟨name, indent, document, earlier, hfault, hreached, hgives, rfl, hopen⟩ := h
  refine ⟨name, indent, document, before ++ earlier, hfault, hreached, hgives, ?_, ?_⟩
  · rw [List.append_assoc]
  · rw [openAfter_append, hbefore, hopen, Int.zero_add]

/-- Inside an expansion there is one level of room less. -/
theorem opened (outer : Chars) (h : CutOff settings store root room fault told) :
    CutOff settings store root (room + 1) fault (.opened outer :: (told ++ [.closed])) := by
  obtain ⟨name, indent, document, earlier, hfault, hreached, hgives, rfl, hopen⟩ := h
  refine ⟨name, indent, document, .opened outer :: earlier, hfault, hreached, hgives, ?_, ?_⟩
  · rw [List.replicate_succ', List.append_assoc, List.cons_append, List.cons_append]
  · rw [openAfter_cons, change_opened, hopen]
    omega

end CutOff

/-- **Keeping within the room, and failing for want of it when it is used up**, is a law of
rendering. -/
theorem renderLaw_depth (settings : RenderSettings) (store : ChangingStore) (root : Node)
    (scope : Scope) :
    RenderLaw settings store root scope fun room outcome told => WithinRoom room told
      ∧ ∀ fault, outcome = .error fault →
        RenderFault settings store scope fault ∨ CutOff settings store root room fault told where
  nothing room := ⟨.nil room, fun fault h => by cases h⟩
  append {room first told others outcome} hfirst hothers := by
    refine ⟨hfirst.1.append hothers.1, fun fault h => ?_⟩
    cases outcome with
    | ok second => cases h
    | error other =>
      cases h
      exact (hothers.2 fault rfl).imp_right fun hcut => hcut.after hfirst.1.settled
  remark room event h := ⟨.remark h, fun fault h => by cases h⟩
  text room _ _ := ⟨.nil room, fun fault h => by cases h⟩
  value room _ _ _ _ _ _ _ := ⟨.nil room, fun fault h => by cases h⟩
  fails room fault hfault := by
    refine ⟨.nil room, fun fault h => ?_⟩
    cases h
    exact .inl hfault
  tooDeep {name indent document} hnode hgives := by
    refine ⟨.remark trivial, fun fault h => ?_⟩
    cases h
    exact .inr ⟨name, indent, document, [], rfl, hnode, hgives, rfl, rfl⟩
  opened name h :=
    ⟨h.1.opened name, fun fault hfault => (h.2 fault hfault).imp_right fun hcut => hcut.opened name⟩

/-- **The host fails with this fault**: a value that the scope reaches does, or printing it does, or
the store does. -/
def HostFails (settings : RenderSettings) (store : ChangingStore) (scope : Scope)
    (fault : Fault) : Prop :=
  scope.MayFail fault
    ∨ (∃ escaped value, (scope.Reaches value ∨ value = .absent)
      ∧ printValue settings escaped value = .error fault)
    ∨ ∃ journal name, store journal name = .error fault

/-- Without room used up, no fault tells of a limit but one of the host. -/
theorem RenderFault.of_partialDepth {settings : RenderSettings} {store : ChangingStore}
    {scope : Scope} {fault : Fault} (h : RenderFault settings store scope fault)
    (hkind : fault.kind = .partialDepth) : HostFails settings store scope fault := by
  cases h with
  | unresolved => cases hkind
  | ofScope hfails => exact .inl hfails
  | ofPrinting hvalue hprint => exact .inr (.inl ⟨_, _, hvalue, hprint⟩)
  | ofLoad hload =>
    cases hload with
    | partialNotFound => cases hkind
    | ofStore hstore => exact .inr (.inr ⟨_, _, hstore⟩)
    | unreadable _ hparse =>
      rcases Document.kind_of_parse_error hparse with hmalformed | hmalformed <;>
        cases hkind.symm.trans hmalformed

/-! ## More room -/

/-- **The same settings with another limit.** -/
def RenderSettings.withLimit (settings : RenderSettings) (limit : DepthLimit) : RenderSettings :=
  { settings with limit }

/-- When nothing is open, the room is what the limit allows. -/
theorem RenderSettings.roomAbove_fresh {settings : RenderSettings}
    (hlimit : 0 ≤ settings.limit.bound) :
    (settings.roomAbove RenderState.fresh.depth : Int) = settings.limit.bound := by
  show ((settings.limit.bound - (0 : Nat)).toNat : Int) = settings.limit.bound
  omega

/-- **A rendering is another one, cut off**: they do the same, unless the first fails for want of
the room that its limit leaves. -/
def IsCutOf {α : Type} (limit : DepthLimit) (cut full : Rendering α) : Prop :=
  ∀ state, (∃ name, (cut state).1 = .error (.tooDeep name limit)) ∨ cut state = full state

namespace IsCutOf

variable {α β : Type} {limit : DepthLimit}

theorem refl (rendering : Rendering α) : IsCutOf limit rendering rendering := fun _ => .inr rfl

theorem tooDeep (name : Chars) (full : Rendering α) :
    IsCutOf limit (Rendering.fail (.tooDeep name limit)) full := fun _ => .inl ⟨name, rfl⟩

/-- **One rendering after the other.** -/
theorem bind {first first' : Rendering α} {second second' : α → Rendering β}
    (hfirst : IsCutOf limit first first') (hsecond : ∀ a, IsCutOf limit (second a) (second' a)) :
    IsCutOf limit (first >>= second) (first' >>= second') := by
  intro state
  simp only [Bind.bind]
  rcases hfirst state with ⟨name, hname⟩ | hsame
  · cases hrun : first state with
    | mk outcome after =>
      rw [hrun] at hname
      cases hname
      exact .inl ⟨name, rfl⟩
  · rw [← hsame]
    cases hrun : first state with
    | mk outcome after =>
      cases outcome with
      | ok a => exact hsecond a after
      | error fault => exact .inr rfl

theorem deeper {body body' : Rendering α} (h : IsCutOf limit body body') :
    IsCutOf limit (Rendering.deeper body) (Rendering.deeper body') := by
  intro state
  rcases h { state with depth := state.depth + 1 } with hname | hsame
  · exact .inl hname
  · simp only [Rendering.deeper, hsame]
    exact .inr trivial

theorem opened (name : Chars) {body body' : Rendering α} (h : IsCutOf limit body body') :
    IsCutOf limit (Rendering.opened name body) (Rendering.opened name body') := by
  intro state
  rcases h { state with journal := .opened name :: state.journal } with hname | hsame
  · exact .inl hname
  · simp only [Rendering.opened, hsame]
    exact .inr trivial

/-- The correspondence of a rendering that is cut off with the full one. -/
def correspondence (limit : DepthLimit) : Correspondence Rendering Rendering :=
  ⟨IsCutOf limit, fun a => .refl (pure a), IsCutOf.bind⟩

end IsCutOf

section Cut

variable {settings : RenderSettings} {limit limit' : DepthLimit}

section Nodes

variable {cut full : Expansion}

theorem isCutOf_walk
    (h : ∀ scope name indent, IsCutOf limit (cut scope name indent) (full scope name indent)) :
    Walk.Corresponds (IsCutOf.correspondence limit)
      (Rendering.walk (settings.withLimit limit) cut)
      (Rendering.walk (settings.withLimit limit') full) where
  resolve scope name := IsCutOf.refl (resolveName settings scope name)
  items value := IsCutOf.refl (Rendering.lift value.items)
  print escaped value := IsCutOf.refl (Rendering.lift (printValue settings escaped value))
  inclusion := h
  call h := h

/-- **A node**, when its partial tags are cut off. -/
theorem isCutOf_renderNode
    (h : ∀ scope name indent, IsCutOf limit (cut scope name indent) (full scope name indent))
    (node : Node) (scope : Scope) :
    IsCutOf limit (renderNode (settings.withLimit limit) cut node scope)
      (renderNode (settings.withLimit limit') full node scope) := by
  rw [← Rendering.walk_node, ← Rendering.walk_node]
  exact Walk.corresponds_node (isCutOf_walk h) node scope

/-- Nodes one after the other. -/
theorem isCutOf_renderNodes
    (h : ∀ scope name indent, IsCutOf limit (cut scope name indent) (full scope name indent))
    (nodes : List Node) (scope : Scope) :
    IsCutOf limit (renderNodes (settings.withLimit limit) cut nodes scope)
      (renderNodes (settings.withLimit limit') full nodes scope) := by
  rw [← Rendering.walk_nodes, ← Rendering.walk_nodes]
  exact Walk.corresponds_nodes (isCutOf_walk h) nodes scope

end Nodes

/-- **A partial tag**, with more room. -/
theorem isCutOf_expand (fetch : Chars → Except Fault Chars) {room room' : Nat}
    (hroom : room ≤ room') (scope : Scope) (name indent : Chars) :
    IsCutOf limit (expand (settings.withLimit limit) fetch room scope name indent)
      (expand (settings.withLimit limit') fetch room' scope name indent) := by
  unfold expand
  refine IsCutOf.bind (.refl (loadPartial settings fetch name indent)) fun kept => ?_
  cases kept with
  | none => exact .refl _
  | some document =>
    refine IsCutOf.bind (.refl (Rendering.note (.loaded name))) fun _ => IsCutOf.deeper ?_
    cases room with
    | zero => exact .tooDeep name _
    | succ room =>
      obtain ⟨more, rfl⟩ : ∃ more, room' = more + 1 := ⟨room' - 1, by omega⟩
      have hinner := isCutOf_expand fetch (Nat.le_of_succ_le_succ hroom)
      exact IsCutOf.opened name (isCutOf_renderNodes hinner document.children scope)

/-- **A rendering**, with a higher limit. -/
theorem isCutOf_render (fetch : Chars → Except Fault Chars) (node : Node) (scope : Scope)
    (hle : limit.bound ≤ limit'.bound) :
    IsCutOf limit (render (settings.withLimit limit) fetch node scope)
      (render (settings.withLimit limit') fetch node scope) := by
  intro state
  have hroom : (limit.bound - state.depth).toNat ≤ (limit'.bound - state.depth).toNat := by omega
  exact isCutOf_renderNode (isCutOf_expand fetch hroom) node scope state

end Cut

/-- **The limit of depth cuts off and changes nothing.** At no time are more expansions open than
the limit allows. If the rendering does not fail for want of room, it does the same as with a higher
limit. If it fails with a fault that tells of a limit, then the host has raised that fault, or it
tells of the limit itself and of a partial that was found and read, and was at hand when as many
expansions were open as the limit allows; after that they were closed, and nothing else happened. -/
theorem render_withLimit (settings : RenderSettings) (fetch : Chars → Except Fault Chars)
    (node : Node) (scope : Scope) {limit limit' : DepthLimit} (hlimit : 0 ≤ limit.bound)
    (hle : limit.bound ≤ limit'.bound) :
    let cut := render (settings.withLimit limit) fetch node scope .fresh
    let full := render (settings.withLimit limit') fetch node scope .fresh
    (∀ earlier later, cut.2.journal.reverse = earlier ++ later → openAfter earlier ≤ limit.bound)
      ∧ ((∀ name, cut.1 ≠ .error (.tooDeep name limit)) → full = cut)
      ∧ ∀ fault, cut.1 = .error fault → fault.kind = .partialDepth →
        HostFails (settings.withLimit limit) (.steady fetch) scope fault
          ∨ ∃ name indent text document earlier, fault = .tooDeep name limit
            ∧ node.Reaches (.steady fetch) (.inclusion name indent) ∧ fetch name = .ok text
            ∧ Document.parse (indentText indent text) = .ok document
            ∧ cut.2.journal.reverse
              = earlier ++ .loaded name :: List.replicate limit.bound.toNat .closed
            ∧ openAfter earlier = limit.bound := by
  intro cut full
  have hcut : cut = renderFrom (settings.withLimit limit) (.steady fetch) node scope .fresh := by
    rw [renderFrom_steady]
  have hroom : ((settings.withLimit limit).roomAbove RenderState.fresh.depth : Int)
      = limit.bound := RenderSettings.roomAbove_fresh hlimit
  have hlaw := renderLaw_depth (settings.withLimit limit) (.steady fetch) node scope
  obtain ⟨-, told, hjournal, hwithin, hfaults⟩ :=
    hlaw.renderFrom (RenderState.keptFrom_fresh (.steady fetch))
  rw [← hcut] at hjournal hfaults
  have htold : cut.2.journal.reverse = told := by
    rw [hjournal]
    simp [RenderState.fresh]
  refine ⟨fun earlier later hsplit => ?_, fun hnone => ?_, fun fault hfault hkind => ?_⟩
  · rw [← hroom]
    exact hwithin.most earlier later (htold ▸ hsplit)
  · rcases isCutOf_render fetch node scope hle .fresh with ⟨name, hname⟩ | hsame
    · exact absurd hname (hnone name)
    · exact hsame.symm
  · rcases hfaults fault hfault with hhost | hcutOff
    · exact .inl (hhost.of_partialDepth hkind)
    · obtain ⟨name, indent, document, earlier, rfl, hreached, hgives, hsplit, hopen⟩ := hcutOff
      obtain ⟨journal, text, htext, hparse⟩ := hgives
      refine .inr ⟨name, indent, text, document, earlier, rfl, hreached, htext, hparse, ?_, ?_⟩
      · rw [htold, hsplit, ← hroom]
        rfl
      · rw [hopen, hroom]

/-- A partial that includes itself, with room for two: both are used up when it is at hand for the
second time, and the fault tells of it. -/
theorem render_withLimit_two :
    let settings : RenderSettings := .standard
    let fetch : Chars → Except Fault Chars := fun name =>
      .ok (if name = ['p'] then "a\x7b\x7b>q\x7d\x7d".toList else "\x7b\x7b>q\x7d\x7d".toList)
    let node : Node := .inclusion ['p'] []
    let scope := Scope.ofValue (.mapping [])
    let limit : DepthLimit := .whole (effectiveLimit 2)
    let limit' : DepthLimit := .whole (effectiveLimit 1000)
    let cut := render (settings.withLimit limit) fetch node scope .fresh
    let earlier : List RenderEvent := [.asked ['p'], .loaded ['p'], .opened ['p'], .asked ['q'],
      .loaded ['q'], .opened ['q']]
    0 ≤ limit.bound ∧ limit.bound ≤ limit'.bound ∧ cut.1 = .error (.tooDeep ['q'] limit)
      ∧ cut.2.journal.reverse
        = earlier ++ .loaded ['q'] :: List.replicate limit.bound.toNat .closed
      ∧ openAfter earlier = limit.bound
      ∧ openAfter (earlier ++ [.loaded ['q']]) ≤ limit.bound := by
  intro settings fetch node scope limit limit' cut earlier
  have hlimit : 0 ≤ limit.bound := by decide
  have hle : limit.bound ≤ limit'.bound := by decide
  have houtcome : cut.1 = .error (.tooDeep ['q'] limit) := by
    simp only [cut, settings, fetch, node, scope, limit]
    decide +kernel
  have hjournal : cut.2.journal.reverse
      = earlier ++ .loaded ['q'] :: List.replicate limit.bound.toNat .closed := by
    simp only [cut, settings, fetch, node, scope, limit]
    decide +kernel
  obtain ⟨hmost, -, -⟩ := render_withLimit settings fetch node scope hlimit hle
  exact ⟨hlimit, hle, houtcome, hjournal, by decide, hmost _ [.closed, .closed] hjournal⟩

end Mustache
