import Mustache.Proofs.Lexer.Tiling
import Mustache.Proofs.Render.Visit
import Mustache.Proofs.Scope.Resolution

/-!
# Faults of the host

Resolving a name asks values for members, one after the other: the frames of the scope for its
first segment, and then the value found for the next segment, and so on (`Scope.Asks`). A value that
fails to answer ends this, and the name fails with that fault. A name fails in no other way, unless
nothing answers to it (`Scope.resolve_eq_error_iff`). An attribute of a host object that fails when
it is read, and not as one that is not there, makes its object fail to answer
(`Value.AttributeFails`).

**The law** (`renderFrom_hostFault`): wherever a rendering comes to a node that wants a name, and
an attribute is read for it that fails, the fault goes out of the rendering as it is. There is one
exception. A fault that says of itself that a name is not resolved is taken for the fault of the
name that is wanted: when missing names print nothing, it prints nothing
(`renderSourceFrom_swallowed`).
-/

namespace Mustache

open Rendering

namespace Scope

variable {scope : Scope} {name : Chars} {fault : Fault}

/-- **Resolving a name asks a value for a member.** -/
inductive Asks (scope : Scope) (name : Chars) : Value → Chars → Prop
  /-- A frame is asked for the first segment, when no frame inside it has such a member. -/
  | frame {first : Chars} {rest : List Chars} {inner outer : List Value} {frame : Value}
      (hname : name ≠ ['.']) (hpath : Chars.split '.' name = first :: rest)
      (hframes : scope.frames = inner ++ frame :: outer)
      (hinner : ∀ other ∈ inner, other.has first = .ok false) : Asks scope name frame first
  /-- The value found by the segments before is asked for the next. -/
  | segment {first segment : Chars} {before after : List Chars} {found value : Value}
      (hname : name ≠ ['.']) (hpath : Chars.split '.' name = first :: (before ++ segment :: after))
      (hfound : findMember first scope.frames = .ok (some found))
      (hwalk : walk name before found = .ok value) : Asks scope name value segment

/-- **A path is not walked to its end** where a value fails to answer, if not for a segment that is
missing. -/
theorem walk_eq_error_iff {segments : List Chars} {value : Value} (hne : fault ≠ .unresolved name) :
    walk name segments value = .error fault ↔ ∃ before segment after found,
      segments = before ++ segment :: after ∧ walk name before value = .ok found
        ∧ found.member? segment = .error fault := by
  constructor
  · intro h
    induction segments generalizing value with
    | nil => cases h
    | cons segment rest ih =>
      rw [walk] at h
      rcases bind_eq_error.mp h with hmember | ⟨member?, hmember, hrest⟩
      · exact ⟨[], segment, rest, value, rfl, rfl, hmember⟩
      · cases member? with
        | none =>
          cases hrest
          exact absurd rfl hne
        | some member =>
          obtain ⟨before, other, after, found, rfl, hwalk, hfound⟩ := ih hrest
          refine ⟨segment :: before, other, after, found, rfl, ?_, hfound⟩
          rw [walk, hmember]
          exact hwalk
  · rintro ⟨before, segment, after, found, rfl, hwalk, hfound⟩
    rw [walk_append, hwalk]
    show walk name (segment :: after) found = .error fault
    rw [walk, hfound]
    rfl

/-- **A name fails** with the fault of a value that is asked for it. -/
theorem Asks.resolve {value : Value} {segment : Chars} (h : scope.Asks name value segment)
    (hmember : value.member? segment = .error fault) : scope.resolve name = .error fault := by
  cases h with
  | frame hname hpath hframes hinner =>
    rw [resolve_of_split hname hpath,
      findMember_eq_error_iff.mpr ⟨_, _, _, hframes, hinner, hmember⟩]
    rfl
  | @segment first segment before after found value hname hpath hfound hwalk =>
    rw [resolve_of_split hname hpath, hfound]
    show walk name (before ++ segment :: after) found = .error fault
    rw [walk_append, hwalk]
    show walk name (segment :: after) value = .error fault
    rw [walk, hmember]
    rfl

/-- **A name fails** with a fault that is not its own just when a value is asked for it that fails
so. -/
theorem resolve_eq_error_iff (hne : fault ≠ .unresolved name) :
    scope.resolve name = .error fault
      ↔ ∃ value segment, scope.Asks name value segment
        ∧ value.member? segment = .error fault := by
  refine ⟨fun h => ?_, fun ⟨value, segment, hasks, hmember⟩ => hasks.resolve hmember⟩
  by_cases hname : name = ['.']
  · rw [Scope.resolve, if_pos hname] at h
    cases h
  · obtain ⟨first, rest, hpath⟩ := List.exists_cons_of_ne_nil (Chars.split_ne_nil '.' name)
    rw [resolve_of_split hname hpath] at h
    rcases bind_eq_error.mp h with hfind | ⟨found?, hfind, hwalk⟩
    · obtain ⟨inner, frame, outer, hframes, hinner, hframe⟩ := findMember_eq_error_iff.mp hfind
      exact ⟨frame, first, .frame hname hpath hframes hinner, hframe⟩
    · cases found? with
      | none =>
        cases hwalk
        exact absurd rfl hne
      | some found =>
        obtain ⟨before, segment, after, value, rfl, hbefore, hvalue⟩ :=
          (walk_eq_error_iff hne).mp hwalk
        exact ⟨value, segment, .segment hname hpath hfind hbefore, hvalue⟩

end Scope

/-! ## Out of a rendering -/

section ResolveName

variable {settings : RenderSettings} {scope : Scope} {name : Chars} {fault : Fault}
  {state : RenderState}

/-- **Wanting a name that fails** fails so, if missing names are to fail, or if the fault does not
say that a name is not resolved. -/
theorem resolveName_eq_error (h : scope.resolve name = .error fault)
    (hout : settings.missingVariables = .raise ∨ fault.kind ≠ .resolution) :
    (resolveName settings scope name state).1 = .error fault := by
  unfold resolveName
  rw [h]
  cases fault with
  | unresolved missing =>
    have hpolicy : settings.missingVariables = .raise := hout.resolve_right fun hkind => hkind rfl
    simp only [hpolicy, if_true]
    rfl
  | _ => rfl

/-- **Wanting a name that is not resolved** gives nothing, if missing names print nothing. -/
theorem resolveName_swallowed {missing : Chars}
    (h : scope.resolve name = .error (.unresolved missing))
    (hpolicy : settings.missingVariables = .empty) :
    resolveName settings scope name state
      = (.ok .absent, { state with journal := .missingName name :: state.journal }) := by
  unfold resolveName
  simp only [h, hpolicy, reduceCtorEq, if_false]
  rfl

end ResolveName

/-- **The fault of an attribute that is read goes out of the rendering**, if missing names are to
fail, or if it does not say that a name is not resolved. If it says so, and missing names print
nothing, the name is absent, as one that nothing answers to. -/
theorem renderFrom_hostFault {settings : RenderSettings} {store : ChangingStore} {node : Node}
    {scope : Scope} {state : RenderState} {target : Visit} {name segment : Chars} {value : Value}
    {fault : Fault} (hcomes : (Visit.start settings node scope state).Comes settings store target)
    (hname : target.node.name? = some name) (hasks : target.scope.Asks name value segment)
    (hfails : value.AttributeFails segment fault) :
    (settings.missingVariables = .raise ∨ fault.kind ≠ .resolution →
        (renderFrom settings store node scope state).1 = .error fault)
      ∧ (settings.missingVariables = .empty → ∀ missing, fault = .unresolved missing →
        resolveName settings target.scope name target.state
          = (.ok .absent,
            { target.state with journal := .missingName name :: target.state.journal })) := by
  have hresolve : target.scope.resolve name = .error fault :=
    hasks.resolve (Value.member?_of_has_error hfails.has)
  constructor
  · intro hout
    have hfailure : target.Fails settings store fault :=
      .name hname (resolveName_eq_error hresolve hout)
    exact Visit.result_eq_error_iff.mpr ⟨target, hcomes, hfailure⟩
  · rintro hpolicy missing rfl
    exact resolveName_swallowed hresolve hpolicy

/-- An attribute fails in a block of a partial, after a partial that is missing and prints nothing.
-/
theorem renderFrom_hostFault_in_partial :
    let settings : RenderSettings := ⟨.empty, .empty, some Escaper.html.apply, .whole 100⟩
    let store : ChangingStore := fun _ name => .error (.partialNotFound name)
    let fault : Fault := .host .value "bad value".toList
    let thing : Value := .object (.plain [] []) [(['x'], .error fault)]
    let scope := Scope.ofValue (.mapping [(.ofChars ['o'], thing)])
    let document : Document := ⟨[.block ['o'] false [.interpolation ['x'] true]]⟩
    let node : Node := .document ([.inclusion ['q'] []] ++ [.inclusion ['p'] []])
    let state : RenderState := ⟨0, [((['p'], []), document)], []⟩
    let inside : RenderState :=
      { state with
        depth := 1
        journal := [.opened ['p'], .loaded ['p'], .missingPartial ['q'], .asked ['q']] }
    let target : Visit := ⟨99, .interpolation ['x'] true, scope.extend thing, inside⟩
    (Visit.start settings node scope state).Comes settings store target
      ∧ target.node.name? = some ['x'] ∧ target.scope.Asks ['x'] thing ['x']
      ∧ thing.AttributeFails ['x'] fault
      ∧ (renderFrom settings store node scope state).1 = .error fault := by
  intro settings store fault thing scope document node state inside target
  let passed : RenderState := { state with journal := [.missingPartial ['q'], .asked ['q']] }
  have hmissing : renderNodes settings (expandFrom settings store 100) [.inclusion ['q'] []] scope
      state = (.ok [], passed) := by
    rw [renderNodes, renderNode, expandFrom]
    rfl
  have hload : loadFrom settings store ['p'] [] passed = (.ok (some document), passed) := rfl
  have hvalue : resolveName settings scope ['o'] inside = (.ok thing, inside) := rfl
  have hitems : thing.items = .ok ([] ++ thing :: []) := rfl
  have hnothing (scope : Scope) :
      renderNodes settings (expandFrom settings store 99) [] scope inside = (.ok [], inside) := rfl
  have hpartial : Visit.Enters settings store ⟨100, node, scope, state⟩
      ⟨100, .inclusion ['p'] [], scope, passed⟩ := .child hmissing
  have hdocument : Visit.Enters settings store ⟨100, .inclusion ['p'] [], scope, passed⟩
      ⟨99, document.toNode, scope, inside⟩ := .expansion hload
  have hblock : Visit.Enters settings store ⟨99, document.toNode, scope, inside⟩
      ⟨99, .block ['o'] false [.interpolation ['x'] true], scope, inside⟩ :=
    .child (hnothing scope)
  have hitem : Visit.Enters settings store
      ⟨99, .block ['o'] false [.interpolation ['x'] true], scope, inside⟩
      ⟨99, .document [.interpolation ['x'] true], scope.extend thing, inside⟩ :=
    .item hvalue hitems rfl
  have hchild : Visit.Enters settings store
      ⟨99, .document [.interpolation ['x'] true], scope.extend thing, inside⟩ target :=
    .child (hnothing _)
  have hcomes : (Visit.start settings node scope state).Comes settings store target :=
    .head hpartial (.head hdocument (.head hblock (.head hitem (.single hchild))))
  have hasks : target.scope.Asks ['x'] thing ['x'] := by
    have hframes : target.scope.frames = [] ++ thing :: scope.frames := rfl
    exact .frame (by decide) rfl hframes fun _ h => absurd h List.not_mem_nil
  have hfails : thing.AttributeFails ['x'] fault := ⟨rfl, rfl, rfl⟩
  exact ⟨hcomes, rfl, hasks, hfails,
    (renderFrom_hostFault hcomes rfl hasks hfails).1 (.inr (by decide))⟩

/-- **Not every fault of an attribute goes out of the rendering**: that another name is not resolved
is taken for the fault of the name that is wanted, and prints nothing. -/
theorem renderSourceFrom_swallowed :
    let settings : RenderSettings := ⟨.empty, .empty, some Escaper.html.apply, .whole 100⟩
    let store : ChangingStore := fun _ name => .error (.partialNotFound name)
    let fault : Fault := .unresolved "inner".toList
    let thing : Value := .object (.plain [] []) [(['x'], .error fault)]
    let scope := Scope.ofValue (.mapping [(.ofChars ['o'], thing)])
    let source := "\x7b\x7bo.x\x7d\x7d".toList
    Document.parse source = .ok ⟨[.interpolation ['o', '.', 'x'] true]⟩
      ∧ scope.Asks ['o', '.', 'x'] thing ['x'] ∧ thing.AttributeFails ['x'] fault
      ∧ (renderSourceFrom settings store source scope .fresh).1 = .ok [] := by
  intro settings store fault thing scope source
  have htokens : tokenize source = .ok
      [.tag ⟨['{', '{'], [], [], ['o', '.', 'x'], [], [], ['}', '}'], [], [], false, 0⟩] := by
    rw [tokenize_eq_runWithin]
    decide +kernel
  refine ⟨?_, ?_, ⟨rfl, rfl, rfl⟩, ?_⟩
  · rw [Document.parse, htokens]
    rfl
  · have hpath : Chars.split '.' ['o', '.', 'x'] = ['o'] :: ([] ++ ['x'] :: []) := rfl
    exact .segment (by decide) hpath rfl rfl
  · simp only [settings, store, source, scope]
    decide +kernel

end Mustache
