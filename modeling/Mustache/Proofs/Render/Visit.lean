import Mathlib.Logic.Relation
import Mustache.Proofs.Render.Changing

/-!
# The visits of a rendering

A rendering goes from node to node, and each node is rendered within a scope and from a state of its
own: that is a **visit**. From one visit the rendering **enters** others (`Visit.Enters`): the nodes
of a document, each once those before it are rendered; the children of a block, once for each item
or when there is none; and the document of a partial, with one level of room less. The visits that a
rendering **comes to** are those it enters, and those that these enter.

**The law** (`Visit.result_eq_error_iff`): a rendering fails just when it comes to a visit that
fails by itself, and with the fault of that visit. A visit fails by itself when a name or a partial
cannot be had, when a value cannot be printed or run over, or when there is no room left
(`Visit.Fails`). So no fault is lost on the way, and none is changed.
-/

namespace Mustache

open Rendering

namespace Rendering

variable {α β : Type} {first : Rendering α} {second : α → Rendering β} {state middle : RenderState}

theorem bind_of_ok {a : α} (h : first state = (.ok a, middle)) :
    (first >>= second) state = second a middle := by
  simp only [bind, h]

/-- One rendering after the other succeeds when both do. -/
theorem exists_of_bind {b : β} {after : RenderState}
    (h : (first >>= second) state = (.ok b, after)) :
    ∃ a middle, first state = (.ok a, middle) ∧ second a middle = (.ok b, after) := by
  cases hfirst : first state with
  | mk outcome middle =>
    simp only [bind, hfirst] at h
    cases outcome with
    | ok a => exact ⟨a, middle, rfl, h⟩
    | error cause => cases h

/-- **One rendering after the other fails** when the first does, or the second behind it. -/
theorem bind_eq_error_iff {fault : Fault} :
    ((first >>= second) state).1 = .error fault ↔ (first state).1 = .error fault
      ∨ ∃ a middle, first state = (.ok a, middle) ∧ (second a middle).1 = .error fault := by
  cases h : first state with
  | mk outcome after =>
    cases outcome with
    | ok a =>
      rw [bind_of_ok h]
      constructor
      · exact fun herror => .inr ⟨a, after, rfl, herror⟩
      · rintro (herror | ⟨a', middle, hfirst, herror⟩)
        · cases herror
        · cases hfirst
          exact herror
    | error cause =>
      have hrun : (first >>= second) state = (.error cause, after) := by simp only [bind, h]
      rw [hrun]
      constructor
      · intro herror
        cases herror
        exact .inl rfl
      · rintro (herror | ⟨a, middle, hfirst, -⟩)
        · cases herror
          rfl
        · cases hfirst

/-- What is done with an answer does not fail. -/
theorem bind_pure_eq_error_iff {f : α → β} {fault : Fault} :
    ((do let a ← first; return f a : Rendering β) state).1 = .error fault
      ↔ (first state).1 = .error fault := by
  rw [bind_eq_error_iff]
  refine or_iff_left ?_
  rintro ⟨a, middle, -, h⟩
  cases h

/-- What begins with an outcome fails with it, or behind it. -/
theorem lift_bind_eq_error_iff {outcome : Except Fault α} {fault : Fault} :
    ((lift outcome >>= second) state).1 = .error fault ↔ outcome = .error fault
      ∨ ∃ a, outcome = .ok a ∧ (second a state).1 = .error fault := by
  rw [bind_eq_error_iff]
  refine or_congr_right ⟨?_, ?_⟩
  · rintro ⟨a, middle, hlift, h⟩
    obtain ⟨houtcome, rfl⟩ := Prod.mk.inj hlift
    exact ⟨a, houtcome, h⟩
  · rintro ⟨a, rfl, h⟩
    exact ⟨a, state, rfl, h⟩

/-- **Renderings in order**, and their texts one after the other. -/
def inOrder {ι : Type} (body : ι → Rendering Chars) : List ι → Rendering Chars
  | [] => pure []
  | item :: rest => do
    let first ← body item
    let others ← inOrder body rest
    return first ++ others

/-- **Renderings in order fail** at the first of them that does. -/
theorem inOrder_eq_error_iff {ι : Type} {body : ι → Rendering Chars} {items : List ι}
    {state : RenderState} {fault : Fault} :
    (inOrder body items state).1 = .error fault
      ↔ ∃ earlier item later text between, items = earlier ++ item :: later
        ∧ inOrder body earlier state = (.ok text, between)
        ∧ (body item between).1 = .error fault := by
  induction items generalizing state with
  | nil =>
    refine iff_of_false (fun h => by cases h) ?_
    rintro ⟨earlier, item, later, -, -, hitems, -⟩
    exact List.append_ne_nil_of_right_ne_nil _ (List.cons_ne_nil _ _) hitems.symm
  | cons first rest ih =>
    show ((body first >>= fun text => inOrder body rest >>= fun others =>
      pure (text ++ others)) state).1 = _ ↔ _
    rw [bind_eq_error_iff]
    constructor
    · rintro (hfirst | ⟨text, middle, hfirst, hrest⟩)
      · exact ⟨[], first, rest, [], state, rfl, rfl, hfirst⟩
      · obtain ⟨earlier, item, later, texts, between, rfl, hearlier, hitem⟩ :=
          ih.mp (bind_pure_eq_error_iff.mp hrest)
        refine ⟨first :: earlier, item, later, text ++ texts, between, rfl, ?_, hitem⟩
        show (body first >>= fun text => _) state = _
        rw [bind_of_ok hfirst]
        exact bind_of_ok hearlier
    · rintro ⟨earlier, item, later, texts, between, hitems, hearlier, hitem⟩
      cases earlier with
      | nil =>
        cases hitems
        cases hearlier
        exact .inl hitem
      | cons head earlier =>
        cases hitems
        obtain ⟨text, middle, hfirst, hmore⟩ := exists_of_bind hearlier
        obtain ⟨others, after, hothers, hlast⟩ := exists_of_bind hmore
        cases hlast
        have hrest := ih.mpr ⟨earlier, item, later, others, _, rfl, hothers, hitem⟩
        exact .inr ⟨text, middle, hfirst, bind_pure_eq_error_iff.mpr hrest⟩

end Rendering

/-- Rendering for each item is rendering in order. -/
theorem renderEach_eq_inOrder (body : Value → Rendering Chars) (items : List Value) :
    renderEach body items = inOrder body items := by
  induction items with
  | nil => rfl
  | cons item rest ih => rw [renderEach, inOrder, ih]

/-- Rendering nodes is rendering in order. -/
theorem renderNodes_eq_inOrder (settings : RenderSettings) (expansion : Expansion)
    (nodes : List Node) (scope : Scope) :
    renderNodes settings expansion nodes scope
      = inOrder (fun node => renderNode settings expansion node scope) nodes := by
  induction nodes with
  | nil => rw [renderNodes, inOrder]
  | cons node rest ih => rw [renderNodes, inOrder, ih]

/-! ## Visits -/

/-- The name that the node asks the scope for, if it does. -/
def Node.name? : Node → Option Chars
  | .interpolation name _ | .block name _ _ => some name
  | _ => none

/-- **A visit**: a node, rendered with so much room within a scope from a state. -/
structure Visit where
  room : Nat
  node : Node
  scope : Scope
  state : RenderState

namespace Visit

variable (settings : RenderSettings) (store : ChangingStore)

/-- The visit that a rendering begins with. -/
def start (node : Node) (scope : Scope) (state : RenderState) : Visit :=
  ⟨settings.roomAbove state.depth, node, scope, state⟩

/-- **What comes of a visit.** -/
def result (visit : Visit) : Except Fault Chars × RenderState :=
  renderNode settings (expandFrom settings store visit.room) visit.node visit.scope visit.state

/-- **A visit enters another.** -/
inductive Enters : Visit → Visit → Prop
  /-- A node of a document, once those before it are rendered. -/
  | child {room : Nat} {before after : List Node} {node : Node} {scope : Scope}
      {state between : RenderState} {text : Chars}
      (hbefore : renderNodes settings (expandFrom settings store room) before scope state
        = (.ok text, between)) :
      Enters ⟨room, .document (before ++ node :: after), scope, state⟩ ⟨room, node, scope, between⟩
  /-- The children of an inverted block, when the value of its name has no item. -/
  | inverted {room : Nat} {name : Chars} {children : List Node} {scope : Scope} {value : Value}
      {state between : RenderState}
      (hname : resolveName settings scope name state = (.ok value, between))
      (hitems : value.items = .ok []) :
      Enters ⟨room, .block name true children, scope, state⟩
        ⟨room, .document children, scope, between⟩
  /-- The children of a block, for an item of the value of its name, once those before it are
  rendered for. -/
  | item {room : Nat} {name : Chars} {children : List Node} {scope : Scope} {value item : Value}
      {earlier later : List Value} {state middle between : RenderState} {text : Chars}
      (hname : resolveName settings scope name state = (.ok value, middle))
      (hitems : value.items = .ok (earlier ++ item :: later))
      (hearlier : renderEach (fun item => renderNodes settings (expandFrom settings store room)
        children (scope.extend item)) earlier middle = (.ok text, between)) :
      Enters ⟨room, .block name false children, scope, state⟩
        ⟨room, .document children, scope.extend item, between⟩
  /-- The document of a partial, in an expansion of its own. -/
  | expansion {room : Nat} {name indent : Chars} {document : Document} {scope : Scope}
      {state between : RenderState}
      (hload : loadFrom settings store name indent state = (.ok (some document), between)) :
      Enters ⟨room + 1, .inclusion name indent, scope, state⟩
        ⟨room, document.toNode, scope, { between with
          depth := between.depth + 1
          journal := .opened name :: .loaded name :: between.journal }⟩

/-- **A visit fails by itself.** -/
inductive Fails : Visit → Fault → Prop
  /-- The value of its name cannot be had. -/
  | name {visit : Visit} {name : Chars} {fault : Fault} (hname : visit.node.name? = some name)
      (h : (resolveName settings visit.scope name visit.state).1 = .error fault) :
      Fails visit fault
  /-- The value of its name cannot be printed. -/
  | print {room : Nat} {name : Chars} {escaped : Bool} {scope : Scope} {state between : RenderState}
      {value : Value} {fault : Fault}
      (hname : resolveName settings scope name state = (.ok value, between))
      (h : printValue settings escaped value = .error fault) :
      Fails ⟨room, .interpolation name escaped, scope, state⟩ fault
  /-- The value of its name cannot be run over. -/
  | items {room : Nat} {name : Chars} {inverted : Bool} {children : List Node} {scope : Scope}
      {state between : RenderState} {value : Value} {fault : Fault}
      (hname : resolveName settings scope name state = (.ok value, between))
      (h : value.items = .error fault) :
      Fails ⟨room, .block name inverted children, scope, state⟩ fault
  /-- The document of its partial cannot be had. -/
  | load {room : Nat} {name indent : Chars} {scope : Scope} {state : RenderState} {fault : Fault}
      (h : (loadFrom settings store name indent state).1 = .error fault) :
      Fails ⟨room, .inclusion name indent, scope, state⟩ fault
  /-- No room is left for its partial. -/
  | room {name indent : Chars} {document : Document} {scope : Scope} {state between : RenderState}
      (hload : loadFrom settings store name indent state = (.ok (some document), between)) :
      Fails ⟨0, .inclusion name indent, scope, state⟩ (.tooDeep name settings.limit)

/-- **The visits that a visit comes to**: itself, those it enters, and those that these come to. -/
def Comes : Visit → Visit → Prop := Relation.ReflTransGen (Enters settings store)

variable {settings store} {fault : Fault}

/-- A visit that is entered is smaller: less room is left, or its node is. -/
theorem Enters.lt {visit target : Visit} (h : Enters settings store visit target) :
    Prod.Lex (· < ·) (· < ·) (target.room, sizeOf target.node) (visit.room, sizeOf visit.node) := by
  cases h with
  | @child room before after node =>
    refine .right _ ?_
    have hmem : node ∈ before ++ node :: after := List.mem_append_right _ List.mem_cons_self
    have := List.sizeOf_lt_of_mem hmem
    simp only [Node.document.sizeOf_spec]
    omega
  | inverted =>
    refine .right _ ?_
    simp only [Node.document.sizeOf_spec, Node.block.sizeOf_spec, Bool.true.sizeOf_spec]
    omega
  | item =>
    refine .right _ ?_
    simp only [Node.document.sizeOf_spec, Node.block.sizeOf_spec, Bool.false.sizeOf_spec]
    omega
  | expansion => exact .left _ _ (Nat.lt_succ_self _)

/-! ## Faults of visits -/

/-- **A document fails** where one of its nodes does. -/
theorem document_eq_error_iff {room : Nat} {children : List Node} {scope : Scope}
    {state : RenderState} :
    (result settings store ⟨room, .document children, scope, state⟩).1 = .error fault
      ↔ ∃ target, Enters settings store ⟨room, .document children, scope, state⟩ target
        ∧ (target.result settings store).1 = .error fault := by
  show (renderNodes settings (expandFrom settings store room) children scope state).1 = _ ↔ _
  rw [renderNodes_eq_inOrder, inOrder_eq_error_iff]
  constructor
  · rintro ⟨before, node, after, text, between, rfl, hbefore, hnode⟩
    rw [← renderNodes_eq_inOrder] at hbefore
    exact ⟨⟨room, node, scope, between⟩, .child hbefore, hnode⟩
  · rintro ⟨target, henters, htarget⟩
    cases henters with
    | child hbefore =>
      rw [renderNodes_eq_inOrder] at hbefore
      exact ⟨_, _, _, _, _, rfl, hbefore, htarget⟩

/-- **A tag fails** with its name, or with printing the value. -/
theorem interpolation_eq_error_iff {room : Nat} {name : Chars} {escaped : Bool} {scope : Scope}
    {state : RenderState} :
    (result settings store ⟨room, .interpolation name escaped, scope, state⟩).1 = .error fault
      ↔ Fails settings store ⟨room, .interpolation name escaped, scope, state⟩ fault := by
  unfold result
  rw [renderNode, bind_eq_error_iff]
  constructor
  · rintro (hname | ⟨value, between, hname, hprint⟩)
    · exact .name rfl hname
    · exact .print hname hprint
  · intro h
    cases h with
    | name hname h =>
      cases hname
      exact .inl h
    | print hname h => exact .inr ⟨_, _, hname, h⟩

/-- **A block fails** by itself, or where one of its visits to its children does. -/
theorem block_eq_error_iff {room : Nat} {name : Chars} {inverted : Bool} {children : List Node}
    {scope : Scope} {state : RenderState} :
    (result settings store ⟨room, .block name inverted children, scope, state⟩).1 = .error fault
      ↔ Fails settings store ⟨room, .block name inverted children, scope, state⟩ fault
        ∨ ∃ target, Enters settings store ⟨room, .block name inverted children, scope, state⟩ target
          ∧ (target.result settings store).1 = .error fault := by
  unfold result
  rw [renderNode, bind_eq_error_iff]
  simp only [lift_bind_eq_error_iff]
  constructor
  · rintro (hname | ⟨value, middle, hname, hfails | ⟨items, hitems, h⟩⟩)
    · exact .inl (.name rfl hname)
    · exact .inl (.items hname hfails)
    · cases inverted with
      | true =>
        simp only [if_true] at h
        split at h
        next hempty =>
          cases List.isEmpty_iff.mp hempty
          exact .inr ⟨_, .inverted hname hitems, h⟩
        · cases h
      | false =>
        simp only [Bool.false_eq_true, if_false] at h
        rw [renderEach_eq_inOrder, inOrder_eq_error_iff] at h
        obtain ⟨earlier, item, later, text, between, rfl, hearlier, hitem⟩ := h
        rw [← renderEach_eq_inOrder] at hearlier
        exact .inr ⟨_, .item hname hitems hearlier, hitem⟩
  · rintro (hfails | ⟨target, henters, htarget⟩)
    · cases hfails with
      | name hname h =>
        cases hname
        exact .inl h
      | items hname h => exact .inr ⟨_, _, hname, .inl h⟩
    · cases henters with
      | inverted hname hitems => exact .inr ⟨_, _, hname, .inr ⟨_, hitems, htarget⟩⟩
      | item hname hitems hearlier =>
        refine .inr ⟨_, _, hname, .inr ⟨_, hitems, ?_⟩⟩
        simp only [Bool.false_eq_true, if_false]
        rw [renderEach_eq_inOrder] at hearlier ⊢
        exact inOrder_eq_error_iff.mpr ⟨_, _, _, _, _, rfl, hearlier, htarget⟩

/-- **A partial fails** with its document, for want of room, or where the visit of it does. -/
theorem inclusion_eq_error_iff {room : Nat} {name indent : Chars} {scope : Scope}
    {state : RenderState} :
    (result settings store ⟨room, .inclusion name indent, scope, state⟩).1 = .error fault
      ↔ (Fails settings store ⟨room, .inclusion name indent, scope, state⟩ fault)
        ∨ ∃ target, Enters settings store ⟨room, .inclusion name indent, scope, state⟩ target
          ∧ (target.result settings store).1 = .error fault := by
  unfold result
  rw [renderNode, expandFrom, bind_eq_error_iff]
  constructor
  · rintro (hload | ⟨document?, middle, hload, h⟩)
    · exact .inl (.load hload)
    · cases document? with
      | none => cases h
      | some document =>
        cases room with
        | zero =>
          cases h
          exact .inl (.room hload)
        | succ room => exact .inr ⟨_, .expansion hload, h⟩
  · rintro (hfails | ⟨target, henters, htarget⟩)
    · cases hfails with
      | name hname => cases hname
      | load hload => exact .inl hload
      | room hload => exact .inr ⟨_, _, hload, rfl⟩
    · cases henters with
      | expansion hload => exact .inr ⟨_, _, hload, htarget⟩

/-- **A visit fails** by itself, or where a visit that it enters does. -/
theorem result_eq_error_iff_enters {visit : Visit} :
    (visit.result settings store).1 = .error fault ↔ visit.Fails settings store fault
      ∨ ∃ target, visit.Enters settings store target
        ∧ (target.result settings store).1 = .error fault := by
  obtain ⟨room, node, scope, state⟩ := visit
  cases node with
  | text text =>
    refine iff_of_false (fun h => by cases h) ?_
    rintro (hfails | ⟨target, henters, -⟩)
    · cases hfails with
      | name h => cases h
    · cases henters
  | interpolation name escaped =>
    rw [interpolation_eq_error_iff, or_iff_left]
    rintro ⟨target, henters, -⟩
    cases henters
  | block name inverted children => exact block_eq_error_iff
  | inclusion name indent => exact inclusion_eq_error_iff
  | document children =>
    rw [document_eq_error_iff, or_iff_right]
    intro hfails
    cases hfails with
    | name h => cases h

/-- A visit that fails comes to one that fails by itself. -/
theorem exists_fails {visit : Visit} (h : (visit.result settings store).1 = .error fault) :
    ∃ target, visit.Comes settings store target ∧ target.Fails settings store fault := by
  rcases result_eq_error_iff_enters.mp h with hfails | ⟨next, henters, hnext⟩
  · exact ⟨visit, .refl, hfails⟩
  · obtain ⟨target, hcomes, hfails⟩ := exists_fails hnext
    exact ⟨target, .head henters hcomes, hfails⟩
termination_by (visit.room, sizeOf visit.node)
decreasing_by exact henters.lt

/-- **A rendering fails** just when it comes to a visit that fails by itself, and with its fault. -/
theorem result_eq_error_iff {visit : Visit} :
    (visit.result settings store).1 = .error fault
      ↔ ∃ target, visit.Comes settings store target ∧ target.Fails settings store fault := by
  refine ⟨exists_fails, ?_⟩
  rintro ⟨target, hcomes, hfails⟩
  induction hcomes using Relation.ReflTransGen.head_induction_on with
  | refl => exact result_eq_error_iff_enters.mpr (.inl hfails)
  | head henters _ ih => exact result_eq_error_iff_enters.mpr (.inr ⟨_, henters, ih⟩)

end Visit

end Mustache
