import Mustache.Proofs.Environment.Alone
import Mustache.Proofs.Node.PlainTag
import Mustache.Proofs.Render.Visit
import Mustache.Proofs.Scope.Resolution
import Mustache.Proofs.Text.Lines

/-!
# Dotted names

A dotted name can be resolved in two goes (`resolve_dotted`): what stands before a dot comes to a
value, and what stands behind it comes, in the scope inside that value, to what the whole name comes
to. The segments of the whole are those of both parts (`Chars.split_append`), and the value
itself is the frame that the first segment of the second part picks.

So a tag of a dotted name prints what a tag of its second part prints inside a block of the first,
where the value of the first counts as true and is no sequence: such a value is the one item of its
block (`Value.items_of_isTruthy`). The converse is false: inside the block the second part may be
found further out.
-/

namespace Mustache

open Text

namespace Value

/-- What is read of a host object is not wrapped. -/
theorem bare_of_readMember {name : Chars} {attributes : List (Chars × Except Fault Value)}
    {member : Value} (h : readMember name attributes = .ok member) : member.Bare := by
  unfold readMember at h
  split at h
  · cases h
  · split at h
    next found hread =>
      cases h
      obtain ⟨item, -, hreflect⟩ := bind_eq_ok.mp hread
      exact bare_of_reflect hreflect
    · split at h <;> cases h

/-- What is looked up is not wrapped. -/
theorem bare_of_lookup {value member : Value} {name : Chars}
    (h : value.lookup name = .ok member) : member.Bare := by
  induction value using Value.lookup.induct name with
  | case1 items | case2 items =>
    rw [lookup, bind_eq_ok] at h
    obtain ⟨index?, -, h⟩ := h
    split at h
    · exact bare_of_reflect h
    · cases h
  | case3 progression =>
    rw [lookup, bind_eq_ok] at h
    obtain ⟨index?, -, h⟩ := h
    split at h <;> cases h
    intro inner hinner
    cases hinner
  | case4 entries item hitem =>
    rw [lookup, hitem] at h
    exact bare_of_reflect h
  | case5 entries hnone =>
    rw [lookup, hnone] at h
    cases h
  | case6 | case7 =>
    rw [lookup] at h
    exact bare_of_readMember h
  | case8 host holds gives =>
    rw [lookup, bind_eq_ok] at h
    obtain ⟨item, -, hreflect⟩ := h
    exact bare_of_reflect hreflect
  | case9 value ih =>
    rw [lookup] at h
    exact ih h
  | case10 | case11 => cases h

/-- What a path comes to is not wrapped. -/
theorem bare_of_follow {value member : Value} {segments : List Chars} (hne : segments ≠ [])
    (h : value.follow segments = .ok (some member)) : member.Bare := by
  induction segments generalizing value with
  | nil => exact absurd rfl hne
  | cons segment rest ih =>
    rw [follow, bind_eq_ok] at h
    obtain ⟨found?, hfound, h⟩ := h
    cases found? with
    | none => cases h
    | some found =>
      by_cases hrest : rest = []
      · subst hrest
        cases h
        exact bare_of_lookup (lookup_of_member? hfound)
      · exact ih hrest h

/-- **The one item of a block**: a value that counts as true, unless it is a sequence. -/
theorem items_of_isTruthy {value : Value} (hbare : value.Bare)
    (htruthy : value.isTruthy = .ok true) (hsequence : value.variant ≠ .sequence) :
    value.items = .ok [value] := by
  cases value with
  | scalar simple =>
    rw [isTruthy, Except.ok.injEq] at htruthy
    rw [items, if_pos htruthy]
  | list items | tuple items | range progression => exact absurd rfl hsequence
  | mapping | octets | object | hostMapping => rfl
  | reflected inner => exact absurd rfl (hbare inner)
  | absent => cases htruthy

end Value

namespace Scope

variable {scope : Scope} {name first : Chars} {rest : List Chars} {value : Value}

/-- **A name that is resolved** has its frame, and comes to what its segments come to from there. -/
theorem exists_follow_of_resolve (hname : name ≠ ['.'])
    (hpath : Chars.split '.' name = first :: rest) (h : scope.resolve name = .ok value) :
    ∃ frame, scope.FindsIn first frame ∧ frame.follow (first :: rest) = .ok (some value) := by
  rcases findsIn_cases scope first with
    ⟨frame, hfinds⟩ | hnone | ⟨fault, inner, frame, outer, hframes, hinner, hfails⟩
  · rw [hfinds.resolve hname hpath] at h
    refine ⟨frame, hfinds, ?_⟩
    cases hfollow : frame.follow (first :: rest) with
    | ok found? =>
      rw [hfollow] at h
      cases found? with
      | none => cases h
      | some found =>
        cases h
        rfl
    | error fault =>
      rw [hfollow] at h
      cases h
  · rw [resolve_of_none hname hpath hnone] at h
    cases h
  · have hmember := Value.member?_of_has_error hfails
    rw [resolve_of_failing hname hpath
      (findMember_eq_error_iff.mpr ⟨inner, frame, outer, hframes, hinner, hmember⟩)] at h
    cases h

/-- A frame whose segments come to a value is picked by the first of them, when it is innermost. -/
theorem resolve_extend_of_follow {frame : Value} (hname : name ≠ ['.'])
    (hpath : Chars.split '.' name = first :: rest)
    (h : frame.follow (first :: rest) = .ok (some value)) :
    (scope.extend frame).resolve name = .ok value := by
  have hfirst := h
  rw [Value.follow, bind_eq_ok] at hfirst
  obtain ⟨member?, hmember, hrest⟩ := hfirst
  cases member? with
  | none => cases hrest
  | some member =>
    have hfinds : (scope.extend frame).FindsIn first frame :=
      ⟨[], scope.frames, rfl, fun _ h => absurd h List.not_mem_nil, Value.has_of_member? hmember⟩
    rw [hfinds.resolve hname hpath, h]
    rfl

/-- **A dotted name is resolved in two goes.** -/
theorem resolve_in_two {before after : Chars} (hbefore : before ≠ ['.']) (hafter : after ≠ ['.'])
    (hwhole : before ++ '.' :: after ≠ ['.'])
    (h : scope.resolve (before ++ '.' :: after) = .ok value) :
    ∃ middle : Value, middle.Bare ∧ scope.resolve before = .ok middle
      ∧ (scope.extend middle).resolve after = .ok value := by
  obtain ⟨first, rest, hpath⟩ := List.exists_cons_of_ne_nil (Chars.split_ne_nil '.' before)
  obtain ⟨next, others, hpath'⟩ := List.exists_cons_of_ne_nil (Chars.split_ne_nil '.' after)
  have hsplit : Chars.split '.' (before ++ '.' :: after) = first :: (rest ++ next :: others) := by
    rw [Chars.split_append, hpath, hpath', List.cons_append]
  obtain ⟨frame, hfinds, hfollow⟩ := exists_follow_of_resolve hwhole hsplit h
  rw [← List.cons_append] at hfollow
  obtain ⟨middle, hmiddle, hvalue⟩ := Value.exists_of_follow_append hfollow
  refine ⟨middle, Value.bare_of_follow (List.cons_ne_nil _ _) hmiddle, ?_,
    resolve_extend_of_follow hafter hpath' hvalue⟩
  rw [hfinds.resolve hbefore hpath, hmiddle]
  rfl

end Scope

/-! ## What is printed -/

section Printed

open Rendering

variable {settings : RenderSettings} {expansion : Expansion} {scope : Scope}
  {name before after : Chars} {middle value : Value}

theorem resolveName_of_ok (h : scope.resolve name = .ok value) :
    resolveName settings scope name = pure value := by
  unfold resolveName
  rw [h]

/-- An interpolation of a name that is resolved prints its value. -/
theorem renderNode_interpolation (h : scope.resolve name = .ok value) (escaped : Bool) :
    renderNode settings expansion (.interpolation name escaped) scope
      = lift (printValue settings escaped value) := by
  rw [renderNode, resolveName_of_ok h]
  rfl

/-- **A block of a value that is its own item** prints what stands inside, once. -/
theorem renderNode_block (h : scope.resolve name = .ok middle) (hitems : middle.items = .ok [middle])
    (children : List Node) :
    renderNode settings expansion (.block name false children) scope
      = renderNodes settings expansion children (scope.extend middle) := by
  rw [renderNode, resolveName_of_ok h]
  show lift middle.items >>= (fun items => renderEach _ items) = _
  rw [hitems]
  exact Eq.trans (funext fun state => rfl) (append_nothing _)

/-- A template of one node prints what the node prints. -/
theorem renderSourceFrom_of_parse {source : Chars} {node : Node} (store : ChangingStore)
    (h : Document.parse source = .ok ⟨[node]⟩) (scope : Scope) (state : RenderState) :
    renderSourceFrom settings store source scope state
      = renderNode settings (expandFrom settings store (settings.roomAbove state.depth)) node scope
        state := by
  unfold renderSourceFrom
  rw [Template.compile_bind source fun document =>
    renderFrom settings store document.toNode scope, h]
  show renderNode _ _ (Node.document [node]) scope state = _
  rw [renderNode, renderNodes_singleton]

end Printed

/-- The tag of a dotted name, behind so many spaces. -/
def dottedTag (spaces : Nat) (before after : Chars) : List PlainTag :=
  [⟨.escaped, spaces, before ++ '.' :: after⟩]

/-- A block of what stands before the dot, around the tag of what stands behind it, each name behind
so many spaces. -/
def dottedBlock (spaces : Nat) (before after : Chars) : List PlainTag :=
  [⟨.opening, spaces, before⟩, ⟨.escaped, spaces, after⟩, ⟨.closing, spaces, before⟩]

section Parsed

variable {spaces : Nat} {before after : Chars}

/-- The tag of a dotted name is read as an interpolation of it. -/
theorem parse_dottedTag (hbefore : ∀ c ∈ before, isName c = true)
    (hafter : ∀ c ∈ after, isName c = true)
    (hfirst : spaces = 0 → ∀ c ∈ (before ++ '.' :: after).head?, c ∉ sigils) :
    Document.parse (PlainTag.writtenAll (dottedTag spaces before after))
      = .ok ⟨[.interpolation (before ++ '.' :: after) true]⟩ := by
  have hname : ∀ c ∈ before ++ '.' :: after, isName c = true := by
    intro c hc
    rcases List.mem_append.mp hc with hc | hc
    · exact hbefore c hc
    · rcases List.mem_cons.mp hc with rfl | hc
      · decide
      · exact hafter c hc
  refine Document.parse_plainTags ?_ rfl ⟨trivial, trivial⟩
  exact List.forall_mem_singleton.mpr ⟨.inl rfl, hname, fun _ => hfirst⟩

/-- The block is read as a block of the first part, around an interpolation of the second. -/
theorem parse_dottedBlock (hbefore : ∀ c ∈ before, isName c = true)
    (hafter : ∀ c ∈ after, isName c = true) (hfirst : spaces = 0 → ∀ c ∈ after.head?, c ∉ sigils) :
    Document.parse (PlainTag.writtenAll (dottedBlock spaces before after))
      = .ok ⟨[.block before false [.interpolation after true]]⟩ := by
  have hopening : (⟨.opening, spaces, before⟩ : PlainTag).Fits :=
    ⟨.inr (.inl rfl), hbefore, fun hkind => by cases hkind⟩
  have hinside : (⟨.escaped, spaces, after⟩ : PlainTag).Fits :=
    ⟨.inl rfl, hafter, fun _ => hfirst⟩
  have hclosing : (⟨.closing, spaces, before⟩ : PlainTag).Fits :=
    ⟨.inr (.inr rfl), hbefore, fun hkind => by cases hkind⟩
  refine Document.parse_plainTags ?_ rfl ⟨⟨trivial, trivial⟩, trivial⟩
  exact List.forall_mem_cons.mpr ⟨hopening, List.forall_mem_cons.mpr
    ⟨hinside, List.forall_mem_singleton.mpr hclosing⟩⟩

end Parsed

/-- **Dotted names factor through scopes.** A dotted name that is resolved comes to what its second
part comes to in the scope inside the value of the first. So where that value counts as true and is
no sequence, an interpolation of the whole prints what one of the second part prints inside a block
of the first, node for node and template for template: for all settings and all that partials mean,
and with all that is told of the rendering. A name that begins like a sigil needs a space in front,
to be a name at all. -/
theorem resolve_dotted {before after : Chars} (hbefore : before ≠ ['.']) (hafter : after ≠ ['.'])
    (hwhole : before ++ '.' :: after ≠ ['.']) {scope : Scope} {value : Value}
    (h : scope.resolve (before ++ '.' :: after) = .ok value) :
    ∃ middle : Value, scope.resolve before = .ok middle
      ∧ (scope.extend middle).resolve after = .ok value
      ∧ (middle.isTruthy = .ok true → middle.variant ≠ .sequence →
        (∀ settings expansion escaped,
          renderNode settings expansion (.interpolation (before ++ '.' :: after) escaped) scope
            = renderNode settings expansion (.block before false [.interpolation after escaped])
              scope)
        ∧ ∀ settings store spaces, (∀ c ∈ before, isName c = true) →
          (∀ c ∈ after, isName c = true) →
          (spaces = 0 → (∀ c ∈ (before ++ '.' :: after).head?, c ∉ sigils)
            ∧ ∀ c ∈ after.head?, c ∉ sigils) →
          renderSourceFrom settings store
              (PlainTag.writtenAll (dottedTag spaces before after)) scope
            = renderSourceFrom settings store
              (PlainTag.writtenAll (dottedBlock spaces before after)) scope) := by
  obtain ⟨middle, hbare, hmiddle, hvalue⟩ := Scope.resolve_in_two hbefore hafter hwhole h
  refine ⟨middle, hmiddle, hvalue, fun htruthy hsequence => ?_⟩
  have hitems := Value.items_of_isTruthy hbare htruthy hsequence
  have hnodes : ∀ settings expansion escaped,
      renderNode settings expansion (.interpolation (before ++ '.' :: after) escaped) scope
        = renderNode settings expansion (.block before false [.interpolation after escaped])
          scope := by
    intro settings expansion escaped
    funext state
    rw [renderNode_interpolation h, renderNode_block hmiddle hitems, renderNodes_singleton,
      renderNode_interpolation hvalue]
  refine ⟨hnodes, fun settings store spaces hbeforeName hafterName hfirst => ?_⟩
  have htag := parse_dottedTag hbeforeName hafterName fun h => (hfirst h).1
  have hblock := parse_dottedBlock hbeforeName hafterName fun h => (hfirst h).2
  funext state
  rw [renderSourceFrom_of_parse store htag, renderSourceFrom_of_parse store hblock, hnodes]

/-- A name of three segments, cut at its first dot; the last segment is the index of an item. -/
theorem resolve_dotted_index :
    let inner : Value :=
      .mapping [(.ofChars ['b'], .tuple [.ofInt 0, .ofChars ['<', 'y', '>']])]
    let scope : Scope := .ofValue (.mapping [(.ofChars ['a'], inner)])
    let tag : Chars := "\x7b\x7ba.b.1\x7d\x7d".toList
    let block : Chars := "\x7b\x7b#a\x7d\x7d\x7b\x7bb.1\x7d\x7d\x7b\x7b/a\x7d\x7d".toList
    ['a'] ≠ ['.'] ∧ "b.1".toList ≠ ['.'] ∧ "a.b.1".toList ≠ ['.']
      ∧ scope.resolve "a.b.1".toList = .ok (.ofChars ['<', 'y', '>'])
      ∧ inner.isTruthy = .ok true ∧ inner.variant ≠ .sequence
      ∧ (scope.extend inner).resolve "b.1".toList = .ok (.ofChars ['<', 'y', '>'])
      ∧ ∀ settings store, renderSourceFrom settings store tag scope
        = renderSourceFrom settings store block scope := by
  intro inner scope tag block
  have hbefore : ['a'] ≠ ['.'] := by decide
  have hafter : "b.1".toList ≠ ['.'] := by decide
  have hwhole : ['a'] ++ '.' :: "b.1".toList ≠ ['.'] := by decide
  have hresolve : scope.resolve (['a'] ++ '.' :: "b.1".toList)
      = .ok (.ofChars ['<', 'y', '>']) := by rfl
  have hsequence : inner.variant ≠ .sequence := by decide
  obtain ⟨middle, hmiddle, hvalue, hprints⟩ := resolve_dotted hbefore hafter hwhole hresolve
  have hinner : scope.resolve ['a'] = .ok inner := rfl
  rw [hinner] at hmiddle
  cases hmiddle
  refine ⟨hbefore, hafter, hwhole, hresolve, rfl, hsequence, hvalue, fun settings store => ?_⟩
  refine (hprints rfl hsequence).2 settings store 0 (List.all_eq_true.mp (by decide))
    (List.all_eq_true.mp (by decide)) fun _ => ⟨?_, ?_⟩
  · rintro c ⟨⟩
    decide
  · rintro c ⟨⟩
    decide

end Mustache
