import Mustache.Proofs.Lexer.Boundary
import Mustache.Proofs.Lexer.Layout
import Mustache.Proofs.Node.Linear
import Mustache.Proofs.Render.Cache

/-!
# Rendering templates one behind the other

Where a line begins between two templates, they can be put together as texts: the first, and then
the second, are one template, and it prints what the first prints and then what the second prints
(`render_append`). The first must not change the delimiters, which would hold on into the second.

The tokens of both are those of the whole, but that plain text at the boundary may become one token
(`Lexer.run_append`); the second template is cut alike at its own beginning and behind the first,
which are two layouts of nothing. So the trees are joined in the same way (`Document.Joined`), and a
joined tree prints one part after the other, whatever the parts ask for: a rendering is the direct
one, and there nothing is left over from the first part to the second.
-/

namespace Mustache

open Chars

/-! ## Trees joined -/

/-- Plain text as an event, or none when there is no character. -/
def Event.ofText (text : Chars) : List Event := if text = [] then [] else [.text text]

/-- Plain text as a node, or none when there is no character. -/
def Node.ofText (text : Chars) : List Node := if text = [] then [] else [.text text]

theorem Token.events_ofText (text : Chars) (offset : Int) :
    events (ofText text offset) = Event.ofText text := by
  unfold ofText Event.ofText
  split <;> rfl

namespace Node

theorem linearAll_ofText (text : Chars) : linearAll (ofText text) = Event.ofText text := by
  unfold ofText Event.ofText
  split <;> rfl

theorem allFlat_ofText (text : Chars) : AllFlat (ofText text) := by
  unfold ofText
  split
  · trivial
  · exact ⟨trivial, trivial⟩

/-- A node whose events end in plain text is that text. -/
theorem eq_text_of_linear {node : Node} {before events : List Event} {plain : Chars}
    (hflat : node.IsFlat) (h : before ++ node.linear = events ++ [.text plain]) :
    node = .text plain ∧ before = events := by
  cases node with
  | text other =>
    obtain ⟨hbefore, hlast⟩ := List.append_inj' h rfl
    cases hlast
    exact ⟨rfl, hbefore⟩
  | interpolation name escaped =>
    obtain ⟨-, hlast⟩ := List.append_inj' h rfl
    cases hlast
  | inclusion name indent =>
    obtain ⟨-, hlast⟩ := List.append_inj' h rfl
    cases hlast
  | block name inverted children =>
    rw [linear, ← List.cons_append, ← List.append_assoc] at h
    obtain ⟨-, hlast⟩ := List.append_inj' h rfl
    cases hlast
  | document children => exact hflat.elim

/-- **Nodes whose events end in plain text** end in a node of that text. -/
theorem exists_append_ofText {nodes : List Node} {events : List Event} {text : Chars}
    (hflat : AllFlat nodes) (h : linearAll nodes = events ++ Event.ofText text) :
    ∃ init, nodes = init ++ ofText text ∧ linearAll init = events ∧ AllFlat init := by
  by_cases htext : text = []
  · rw [Event.ofText, if_pos htext, List.append_nil] at h
    exact ⟨nodes, by rw [ofText, if_pos htext, List.append_nil], h, hflat⟩
  · rw [Event.ofText, if_neg htext] at h
    rcases List.eq_nil_or_concat nodes with rfl | ⟨init, node, rfl⟩
    · exact absurd h.symm (List.append_ne_nil_of_right_ne_nil _ (List.cons_ne_nil _ _))
    · rw [List.concat_eq_append, linearAll_concat] at h
      rw [List.concat_eq_append, allFlat_append] at hflat
      obtain ⟨rfl, hinit⟩ := eq_text_of_linear hflat.2.1 h
      exact ⟨init, by rw [ofText, if_neg htext, List.concat_eq_append], hinit, hflat.1⟩

/-- **Nodes whose events begin with plain text** begin with a node of that text. -/
theorem exists_ofText_append {nodes : List Node} {events : List Event} {text : Chars}
    (hflat : AllFlat nodes) (h : linearAll nodes = Event.ofText text ++ events) :
    ∃ rest, nodes = ofText text ++ rest ∧ linearAll rest = events ∧ AllFlat rest := by
  by_cases htext : text = []
  · rw [Event.ofText, if_pos htext, List.nil_append] at h
    exact ⟨nodes, by rw [ofText, if_pos htext, List.nil_append], h, hflat⟩
  · rw [Event.ofText, if_neg htext, List.singleton_append] at h
    cases nodes with
    | nil => cases h
    | cons node rest =>
      rw [linearAll] at h
      cases node with
      | text plain =>
        cases h
        exact ⟨rest, by rw [ofText, if_neg htext, List.singleton_append], rfl, hflat.2⟩
      | document children => exact hflat.1.elim
      | _ => cases h

end Node

/-- **Documents joined**: one behind the other, where plain text at the end of the first and plain
text at the beginning of the second become one. -/
inductive Document.Joined (left right joined : Document) : Prop
  | intro (init rest : List Node) (before after : Chars)
      (left_eq : left.children = init ++ Node.ofText before)
      (right_eq : right.children = Node.ofText after ++ rest)
      (joined_eq : joined.children = init ++ (Node.ofText (before ++ after) ++ rest))

/-! ## Templates joined -/

/-- **No tag of the template changes the delimiters.** -/
def KeepsDelimiters (source : Chars) : Prop :=
  ∀ tokens, tokenize source = .ok tokens → ∀ tag ∈ Token.tags tokens,
    tag.kind? ≠ some .delimiters

/-- Tokens of a text laid out as it is are the same events. -/
theorem Token.Relaid.events_plain {tokens relaid : List Token}
    (h : Token.Relaid .plain tokens relaid) : Token.events relaid = Token.events tokens := by
  induction h with
  | nil => rfl
  | text _ _ ih =>
    rw [Token.events_cons, Token.events_cons, ih, Layout.spell_plain]
    rfl
  | margin hindent _ _ => exact absurd rfl hindent
  | @tag tag tag' _ _ htag _ ih =>
    have hevent : tag'.event? = tag.event? := by
      have hcontent := htag.content
      have hbefore := htag.spaceBefore
      rw [Layout.inside_plain, ite_self] at hcontent
      rw [Layout.margin_plain, List.nil_append] at hbefore
      unfold Tag.event?
      rw [Lexer.kind?_relaid htag, hcontent, hbefore]
    rw [Token.events_tag, Token.events_tag, ih, hevent]

/-- **The tokens of two templates put together.** -/
theorem tokenize_append {a b : Chars} {left right : List Token}
    (hline : lineStartAfter true a = true) (hkeeps : KeepsDelimiters a)
    (hleft : tokenize a = .ok left) (hright : tokenize b = .ok right) :
    ∃ joined others, tokenize (a ++ b) = .ok joined ∧ Token.events others = Token.events right
      ∧ Token.Joined left others joined := by
  have hsplit : (Cursor.start (a ++ b)).ahead = a ++ b := rfl
  -- behind the first text a line begins, as it does at the beginning of the second
  have hspelled : Lexer.Spelled .plain (.start b) ((Cursor.start (a ++ b)).advance a.length) := by
    refine ⟨?_, ?_, .inl rfl⟩
    · rw [Cursor.atLineStart_advance_of_append hsplit]
      exact hline
    · rw [Cursor.ahead_advance_of_append hsplit, Layout.spell_plain]
      rfl
  have hagree : Agree (Token.Relaid .plain) (Lexer.run .standard (.start b))
      (Lexer.run .standard ((Cursor.start (a ++ b)).advance a.length)) :=
    Lexer.run_spell hspelled
  have hkeeps (tag : Tag) (hmem : .tag tag ∈ left) : tag.kind? ≠ some .delimiters :=
    hkeeps left hleft tag (Token.mem_tags.mpr hmem)
  rw [tokenize_eq_run] at hleft hright ⊢
  rw [hright] at hagree
  obtain ⟨others, hothers, hrelaid⟩ := hagree.exists_right
  have hextends : Lexer.Extends b (.start a) (.start (a ++ b)) := ⟨rfl, rfl⟩
  obtain ⟨joined, hjoined, hparts⟩ := Lexer.run_append hextends hline hleft hkeeps hothers
  exact ⟨joined, others, hjoined, hrelaid.events_plain, hparts⟩

/-- **The document of two templates put together** is theirs joined. -/
theorem Document.parse_append {a b : Chars} {left right : Document}
    (hline : lineStartAfter true a = true) (hkeeps : KeepsDelimiters a)
    (hleft : parse a = .ok left) (hright : parse b = .ok right) :
    ∃ joined, parse (a ++ b) = .ok joined ∧ Joined left right joined := by
  obtain ⟨tokens, htokens, hlinear, hflat⟩ := parse_eq_ok_iff.mp hleft
  obtain ⟨tokens', htokens', hlinear', hflat'⟩ := parse_eq_ok_iff.mp hright
  obtain ⟨joined, others, hjoined, hevents, init, rest, before, after, offset, offset', rfl, rfl,
    rfl⟩ := tokenize_append hline hkeeps htokens htokens'
  rw [Token.events_append, Token.events_ofText] at hlinear
  rw [← hevents, Token.events_append, Token.events_ofText] at hlinear'
  obtain ⟨nodes, hnodes, hinit, hinitFlat⟩ := Node.exists_append_ofText hflat hlinear
  obtain ⟨nodes', hnodes', hrest, hrestFlat⟩ := Node.exists_ofText_append hflat' hlinear'
  refine ⟨⟨nodes ++ (Node.ofText (before ++ after) ++ nodes')⟩,
    parse_eq_ok_iff.mpr ⟨_, hjoined, ?_, ?_⟩, nodes, nodes', before, after, hnodes, hnodes', rfl⟩
  · simp only [Node.linearAll_append, Node.linearAll_ofText, hinit, hrest, Token.events_append,
      Token.events_ofText]
  · exact Node.allFlat_append.mpr
      ⟨hinitFlat, Node.allFlat_append.mpr ⟨Node.allFlat_ofText _, hrestFlat⟩⟩

/-! ## Renderings joined -/

section Rendering

variable (settings : RenderSettings) (expansion : Direct.Expansion)

/-- Plain text prints itself. -/
theorem Direct.renderNodes_ofText (text : Chars) (scope : Scope) :
    Direct.renderNodes settings expansion (Node.ofText text) scope = pure text := by
  unfold Node.ofText
  split
  next h => rw [h, Direct.renderNodes]
  · simp [Direct.renderNodes, Direct.renderNode]

/-- **Joined documents print what their parts print**, one behind the other. -/
theorem Direct.renderNodes_joined {left right joined : Document}
    (h : Document.Joined left right joined) (scope : Scope) :
    Direct.renderNodes settings expansion joined.children scope = do
      let first ← Direct.renderNodes settings expansion left.children scope
      let second ← Direct.renderNodes settings expansion right.children scope
      return first ++ second := by
  obtain ⟨init, rest, before, after, hleft, hright, hjoined⟩ := h
  rw [hleft, hright, hjoined]
  simp only [Direct.renderNodes_append, Direct.renderNodes_ofText, bind_assoc, pure_bind,
    List.append_assoc]

/-- A first rendering has the outcome of the direct one. -/
theorem render_fresh (fetch : Chars → Except Fault Chars) (document : Document) (scope : Scope) :
    (render settings fetch document.toNode scope .fresh).1
      = (Direct.renderNodes settings (Direct.expand settings fetch settings.limit.bound.toNat)
        document.children scope).outcome := by
  rw [(followsFrom_render settings fetch document.toNode scope (RenderState.sound_fresh fetch)
    rfl).outcome]
  unfold Direct.render Document.toNode
  rw [Direct.renderNode]

end Rendering

/-- **Two templates put together where a line begins** print what the first prints and then what the
second prints, and fail as the first fails, or else as the second does. -/
theorem render_append {a b : Chars} {left right : Document}
    (hleft : Document.parse a = .ok left) (hright : Document.parse b = .ok right)
    (hline : a = [] ∨ a.getLast? = some '\n') (hkeeps : KeepsDelimiters a) :
    ∃ joined, Document.parse (a ++ b) = .ok joined
      ∧ ∀ (settings : RenderSettings) (fetch : Chars → Except Fault Chars) (scope : Scope),
        (render settings fetch joined.toNode scope .fresh).1 = do
          let first ← (render settings fetch left.toNode scope .fresh).1
          let second ← (render settings fetch right.toNode scope .fresh).1
          return first ++ second := by
  have hline : lineStartAfter true a = true := by
    rcases hline with rfl | hlast
    · rfl
    · obtain ⟨init, rfl⟩ := List.getLast?_eq_some_iff.mp hlast
      exact lineStartAfter_concat true init '\n'
  obtain ⟨joined, hjoined, hparts⟩ := Document.parse_append hline hkeeps hleft hright
  refine ⟨joined, hjoined, fun settings fetch scope => ?_⟩
  rw [render_fresh, render_fresh, render_fresh, Direct.renderNodes_joined _ _ hparts,
    Account.outcome_bind]
  refine congrArg _ (funext fun first => ?_)
  rw [Account.outcome_bind]
  rfl

/-- A block on lines of its own, and behind it a partial alone on the last line. -/
theorem render_append_standalone :
    Document.parse "\x7b\x7b#s\x7d\x7d\nx\n\x7b\x7b/s\x7d\x7d\n".toList
        = .ok ⟨[.block ['s'] false [.text ['x', '\n']]]⟩
      ∧ Document.parse "  \x7b\x7b>p\x7d\x7d".toList = .ok ⟨[.inclusion ['p'] [' ', ' ']]⟩
      ∧ KeepsDelimiters "\x7b\x7b#s\x7d\x7d\nx\n\x7b\x7b/s\x7d\x7d\n".toList
      ∧ ∃ joined, Document.parse ("\x7b\x7b#s\x7d\x7d\nx\n\x7b\x7b/s\x7d\x7d\n".toList
            ++ "  \x7b\x7b>p\x7d\x7d".toList) = .ok joined
        ∧ ∀ (settings : RenderSettings) (fetch : Chars → Except Fault Chars) (scope : Scope),
          (render settings fetch joined.toNode scope .fresh).1 = do
            let first ← (render settings fetch
              (Document.mk [.block ['s'] false [.text ['x', '\n']]]).toNode scope .fresh).1
            let second ← (render settings fetch
              (Document.mk [.inclusion ['p'] [' ', ' ']]).toNode scope .fresh).1
            return first ++ second := by
  have hleft : tokenize "\x7b\x7b#s\x7d\x7d\nx\n\x7b\x7b/s\x7d\x7d\n".toList = .ok
      [.tag ⟨['{', '{'], ['#'], [], ['s'], [], [], ['}', '}'], [], ['\n'], true, 0⟩,
        .text ['x', '\n'] 7,
        .tag ⟨['{', '{'], ['/'], [], ['s'], [], [], ['}', '}'], [], ['\n'], true, 9⟩] := by
    rw [tokenize_eq_runWithin]
    decide +kernel
  have hright : tokenize "  \x7b\x7b>p\x7d\x7d".toList = .ok
      [.tag ⟨['{', '{'], ['>'], [], ['p'], [], [], ['}', '}'], [' ', ' '], [], true, 2⟩] := by
    rw [tokenize_eq_runWithin]
    decide +kernel
  have hparse : Document.parse "\x7b\x7b#s\x7d\x7d\nx\n\x7b\x7b/s\x7d\x7d\n".toList
      = .ok ⟨[.block ['s'] false [.text ['x', '\n']]]⟩ :=
    Document.parse_eq_ok_iff.mpr ⟨_, hleft, rfl, ⟨trivial, trivial⟩, trivial⟩
  have hparse' : Document.parse "  \x7b\x7b>p\x7d\x7d".toList
      = .ok ⟨[.inclusion ['p'] [' ', ' ']]⟩ :=
    Document.parse_eq_ok_iff.mpr ⟨_, hright, rfl, trivial, trivial⟩
  have hkeeps : KeepsDelimiters "\x7b\x7b#s\x7d\x7d\nx\n\x7b\x7b/s\x7d\x7d\n".toList := by
    intro tokens htokens
    rw [hleft] at htokens
    cases htokens
    decide
  exact ⟨hparse, hparse', hkeeps, render_append hparse hparse' (.inr (by decide)) hkeeps⟩

end Mustache
