import Mustache.Proofs.Render.Cache
import Mustache.Proofs.Render.Depth

/-!
# Partials in place

A partial tag prints what the document of the partial prints in its place. `Node.InPlace` says of
two trees that the second is the first with some partial tags replaced so, wherever they stand, in
blocks, in documents in place, and in the documents that were put in place themselves. Rendering
cannot tell the two apart: from any scope the outcome is the same (`render_inPlace`), though the
store is asked less often and other documents are kept.

The one thing a partial tag has that its document has not is a level of room. So the tree with the
tags may fail for want of room where the other tree does not, and this is the only way in which the
outcomes can differ (`Account.EndsAs`). Each node is given no less room in the second tree than in
the first, which is what the induction carries.
-/

namespace Mustache

/-! ## Trees with partials in place -/

mutual

/-- **The node with partials in place**: partial tags may stand as they are, or as the document that
the partial of the store is read into, indented as the tag is. -/
inductive Node.InPlace (fetch : Chars → Except Fault Chars) : Node → Node → Prop
  | text (text : Chars) : Node.InPlace fetch (.text text) (.text text)
  | interpolation (name : Chars) (escaped : Bool) :
      Node.InPlace fetch (.interpolation name escaped) (.interpolation name escaped)
  | block (name : Chars) (inverted : Bool) {children children' : List Node}
      (h : Node.AllInPlace fetch children children') :
      Node.InPlace fetch (.block name inverted children) (.block name inverted children')
  | inclusion (name indent : Chars) :
      Node.InPlace fetch (.inclusion name indent) (.inclusion name indent)
  | body {name indent text : Chars} {document : Document} {children : List Node}
      (hfetch : fetch name = .ok text)
      (hparse : Document.parse (indentText indent text) = .ok document)
      (h : Node.AllInPlace fetch document.children children) :
      Node.InPlace fetch (.inclusion name indent) (.document children)
  | document {children children' : List Node} (h : Node.AllInPlace fetch children children') :
      Node.InPlace fetch (.document children) (.document children')

/-- Nodes with partials in place, one by one. -/
inductive Node.AllInPlace (fetch : Chars → Except Fault Chars) : List Node → List Node → Prop
  | nil : Node.AllInPlace fetch [] []
  | cons {node node' : Node} {rest rest' : List Node} (h : Node.InPlace fetch node node')
      (hrest : Node.AllInPlace fetch rest rest') :
      Node.AllInPlace fetch (node :: rest) (node' :: rest')

end

mutual

/-- With no partial put in place, a node is what it is. -/
theorem Node.InPlace.refl (fetch : Chars → Except Fault Chars) :
    ∀ node : Node, node.InPlace fetch node
  | .text plain => .text plain
  | .interpolation name escaped => .interpolation name escaped
  | .block name inverted children => .block name inverted (Node.AllInPlace.refl fetch children)
  | .inclusion name indent => .inclusion name indent
  | .document children => .document (Node.AllInPlace.refl fetch children)

theorem Node.AllInPlace.refl (fetch : Chars → Except Fault Chars) :
    ∀ nodes : List Node, Node.AllInPlace fetch nodes nodes
  | [] => .nil
  | node :: rest => .cons (Node.InPlace.refl fetch node) (Node.AllInPlace.refl fetch rest)

end

/-- **A partial tag and the document of its partial.** -/
theorem Node.InPlace.ofDocument {fetch : Chars → Except Fault Chars} {name indent text : Chars}
    {document : Document} (hfetch : fetch name = .ok text)
    (hparse : Document.parse (indentText indent text) = .ok document) :
    (Node.inclusion name indent).InPlace fetch document.toNode :=
  .body hfetch hparse (.refl fetch document.children)

/-! ## Outcomes but for want of room -/

/-- **An account ends as another does**, unless that one, cut off, fails for want of room. -/
def Account.EndsAs {α : Type} (limit : DepthLimit) (cut full : Account α) : Prop :=
  (∃ name, cut.outcome = .error (.tooDeep name limit)) ∨ full.outcome = cut.outcome

namespace Account.EndsAs

variable {α β : Type} {limit : DepthLimit}

theorem refl (account : Account α) : EndsAs limit account account := .inr rfl

/-- **One account after the other.** -/
theorem bind {first first' : Account α} {second second' : α → Account β}
    (hfirst : EndsAs limit first first') (hsecond : ∀ a, EndsAs limit (second a) (second' a)) :
    EndsAs limit (first >>= second) (first' >>= second') := by
  unfold EndsAs
  rw [outcome_bind, outcome_bind]
  rcases hfirst with ⟨name, hname⟩ | hsame
  · rw [hname]
    exact .inl ⟨name, rfl⟩
  · rw [hsame]
    cases first.outcome with
    | ok a => exact hsecond a
    | error fault => exact .inr rfl

theorem renderEach {body body' : Value → Account Chars} (items : List Value)
    (h : ∀ item, EndsAs limit (body item) (body' item)) :
    EndsAs limit (Direct.renderEach body items) (Direct.renderEach body' items) := by
  induction items with
  | nil => exact .refl _
  | cons item rest ih => exact (h item).bind fun _ => ih.bind fun _ => .refl _

end Account.EndsAs

/-! ## The same outcome -/

namespace Direct

open Account

variable {settings : RenderSettings} {fetch : Chars → Except Fault Chars}

/-- **A partial tag with more room.** -/
theorem endsAs_expand {room room' : Nat} (hroom : room ≤ room') (scope : Scope)
    (name indent : Chars) :
    EndsAs settings.limit (expand settings fetch room scope name indent)
      (expand settings fetch room' scope name indent) := by
  have hsound := RenderState.sound_fresh fetch
  have hcut := (follows_expand settings fetch room scope name indent .fresh hsound).outcome
  have hfull := (follows_expand settings fetch room' scope name indent .fresh hsound).outcome
  have hless : IsCutOf settings.limit (Mustache.expand settings fetch room scope name indent)
      (Mustache.expand settings fetch room' scope name indent) :=
    @isCutOf_expand settings settings.limit settings.limit fetch room room' hroom scope name indent
  unfold EndsAs
  rw [← hcut, ← hfull]
  exact (hless .fresh).imp_right fun hsame => congrArg Prod.fst hsame.symm

section Expand

variable {name indent text : Chars} {document : Document} (hfetch : fetch name = .ok text)
  (hparse : Document.parse (indentText indent text) = .ok document)

include hfetch hparse

/-- A partial that is there is read. -/
theorem outcome_readPartial :
    (readPartial settings fetch name indent).outcome = .ok (some document) := by
  simp only [readPartial, outcome_bind, hfetch, hparse]
  rfl

/-- Without room, a partial that is there is a fault. -/
theorem outcome_expand_zero (scope : Scope) :
    (expand settings fetch 0 scope name indent).outcome
      = .error (.tooDeep name settings.limit) := by
  rw [expand, outcome_bind, outcome_readPartial hfetch hparse]
  rfl

/-- **A partial tag prints what the document of the partial prints** with one level of room less. -/
theorem outcome_expand_succ (room : Nat) (scope : Scope) :
    (expand settings fetch (room + 1) scope name indent).outcome
      = (renderNodes settings (expand settings fetch room) document.children scope).outcome := by
  rw [expand, outcome_bind, outcome_readPartial hfetch hparse]
  rfl

end Expand

mutual

/-- **A node with partials in place**, each with no less room than before. -/
theorem endsAs_renderNode {room room' : Nat} (hroom : room ≤ room') :
    ∀ {node node' : Node}, node.InPlace fetch node' → ∀ scope : Scope,
      EndsAs settings.limit (renderNode settings (expand settings fetch room) node scope)
        (renderNode settings (expand settings fetch room') node' scope)
  | _, .text _, h, _ => by
    cases h
    simp only [renderNode]
    exact .refl _
  | _, .interpolation _ _, h, _ => by
    cases h
    simp only [renderNode]
    exact .refl _
  | _, .block name inverted children', h, scope => by
    cases h with
    | block _ _ h =>
      simp only [renderNode]
      refine EndsAs.bind (.refl _) fun value => EndsAs.bind (.refl _) fun items => ?_
      split
      · split
        · exact endsAs_renderNodes hroom h scope
        · exact .refl _
      · exact .renderEach items fun item => endsAs_renderNodes hroom h (scope.extend item)
  | _, .inclusion name indent, h, scope => by
    cases h
    simp only [renderNode]
    exact endsAs_expand hroom scope name indent
  | _, .document children', h, scope => by
    cases h with
    | document h =>
      simp only [renderNode]
      exact endsAs_renderNodes hroom h scope
    | body hfetch hparse h =>
      simp only [renderNode]
      cases room with
      | zero => exact .inl ⟨_, outcome_expand_zero hfetch hparse scope⟩
      | succ room =>
        unfold EndsAs
        rw [outcome_expand_succ hfetch hparse]
        exact endsAs_renderNodes (Nat.le_of_succ_le hroom) h scope

/-- Nodes with partials in place, one after the other. -/
theorem endsAs_renderNodes {room room' : Nat} (hroom : room ≤ room') :
    ∀ {nodes nodes' : List Node}, Node.AllInPlace fetch nodes nodes' → ∀ scope : Scope,
      EndsAs settings.limit (renderNodes settings (expand settings fetch room) nodes scope)
        (renderNodes settings (expand settings fetch room') nodes' scope)
  | _, [], h, _ => by
    cases h
    simp only [renderNodes]
    exact .refl _
  | _, node' :: rest', h, scope => by
    cases h with
    | cons h hrest =>
      simp only [renderNodes]
      exact (endsAs_renderNode hroom h scope).bind fun _ =>
        (endsAs_renderNodes hroom hrest scope).bind fun _ => .refl _

end

end Direct

/-- **A partial prints what its document prints in its place.** Whatever was rendered before with
either, a tree with partials in place has the outcome of the tree with their tags, a text or a
fault, in every scope, unless the latter fails for want of room. -/
theorem render_inPlace (settings : RenderSettings) (fetch : Chars → Except Fault Chars)
    {node node' : Node} (hinPlace : node.InPlace fetch node') (scope : Scope)
    (calls calls' : List (Node × Scope))
    (hroom : ∀ name, (render settings fetch node scope (afterAll settings fetch calls)).1
      ≠ .error (.tooDeep name settings.limit)) :
    (render settings fetch node' scope (afterAll settings fetch calls')).1
      = (render settings fetch node scope (afterAll settings fetch calls)).1 := by
  obtain ⟨hsound, hdepth⟩ := afterAll_sound settings fetch calls
  obtain ⟨hsound', hdepth'⟩ := afterAll_sound settings fetch calls'
  have hcut := (followsFrom_render settings fetch node scope hsound hdepth).outcome
  have hfull := (followsFrom_render settings fetch node' scope hsound' hdepth').outcome
  have hends : Account.EndsAs settings.limit (Direct.render settings fetch node scope)
      (Direct.render settings fetch node' scope) :=
    Direct.endsAs_renderNode (Nat.le_refl _) hinPlace scope
  rw [hcut] at hroom ⊢
  rw [hfull]
  rcases hends with ⟨name, hname⟩ | hsame
  · exact absurd hname (hroom name)
  · exact hsame

/-- A partial in a block, indented, and a partial in the partial, both put in place. -/
theorem render_inPlace_nested :
    let settings : RenderSettings := .standard
    let fetch : Chars → Except Fault Chars := fun name =>
      .ok (if name = ['p'] then "\x7b\x7b.\x7d\x7d\x7b\x7b>q\x7d\x7d\n".toList else ['!'])
    let node : Node := .block ['x'] false [.inclusion ['p'] [' ']]
    let node' : Node := .block ['x'] false
      [.document [.text [' '], .interpolation ['.'] true, .document [.text ['!']], .text ['\n']]]
    let scope := Scope.ofValue (.mapping [(.ofChars ['x'], .list [.ofInt 1, .ofInt 2])])
    node.InPlace fetch node'
      ∧ (render settings fetch node scope (afterAll settings fetch [])).1
        = .ok [' ', '1', '!', '\n', ' ', '2', '!', '\n']
      ∧ (render settings fetch node' scope (afterAll settings fetch [(node, scope)])).1
        = .ok [' ', '1', '!', '\n', ' ', '2', '!', '\n'] := by
  intro settings fetch node node' scope
  have hfirst : Document.parse (indentText [' '] "\x7b\x7b.\x7d\x7d\x7b\x7b>q\x7d\x7d\n".toList)
      = .ok ⟨[.text [' '], .interpolation ['.'] true, .inclusion ['q'] [], .text ['\n']]⟩ := by
    rw [Document.parse, tokenize_eq_runWithin]
    rfl
  have hsecond : Document.parse (indentText [] ['!']) = .ok ⟨[.text ['!']]⟩ := by
    rw [Document.parse, tokenize_eq_runWithin]
    rfl
  have hinner : (Node.inclusion ['q'] []).InPlace fetch (.document [.text ['!']]) :=
    @Node.InPlace.ofDocument fetch ['q'] [] ['!'] _ rfl hsecond
  have hinPlace : node.InPlace fetch node' :=
    .block ['x'] false (.cons (.body rfl hfirst (.cons (.text _) (.cons (.interpolation _ _)
      (.cons hinner (.cons (.text _) .nil))))) .nil)
  have houtcome : (render settings fetch node scope (afterAll settings fetch [])).1
      = .ok [' ', '1', '!', '\n', ' ', '2', '!', '\n'] := by
    simp only [settings, fetch, node, scope]
    decide +kernel
  refine ⟨hinPlace, houtcome, ?_⟩
  rw [render_inPlace settings fetch hinPlace scope [] [(node, scope)] fun name h => ?_]
  · exact houtcome
  · rw [houtcome] at h
    cases h

end Mustache
