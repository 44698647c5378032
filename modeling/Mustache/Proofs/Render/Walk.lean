import Mustache.Proofs.Render.Direct

/-!
# The walk over a tree

Rendering and the direct rendering walk a tree in the same way, and differ in what they walk with: a
rendering has a state, an account has none. Here is the walk alone, with computations of any kind. A
`Walk` says what a name stands for, what is printed for a value, and what a partial tag means;
`Walk.node` does the rest. Rendering is a walk with renderings (`Rendering.walk_node`), and the
direct rendering is one with accounts (`Direct.walk_node`).

Two walks that **correspond** in the three parts correspond on every tree (`Walk.corresponds_node`).
To correspond may mean anything that is kept by giving an answer and by going on from one
(`Correspondence`). So what is shown of names, values and partial tags is shown of trees, and nobody
goes along the tree again.
-/

namespace Mustache

/-- **What a walk over a tree is made of**: the value of a name within a scope, the items that a
block runs over, the text printed for a value by a tag that asks for escaping or does not, and the
meaning of a partial tag, by scope, name and indentation. Whatever the walk does for a node, and for
the children of one, it does in a call. -/
structure Walk (m : Type → Type) where
  resolve : Scope → Chars → m Value
  items : Value → m (List Value)
  print : Bool → Value → m Chars
  inclusion : Scope → Chars → Chars → m Chars
  call : m Chars → m Chars

namespace Walk

variable {m : Type → Type} [Monad m]

/-- The texts for each item, one after the other. -/
def each (body : Value → m Chars) : List Value → m Chars
  | [] => pure []
  | item :: rest => do
    let first ← body item
    let others ← each body rest
    return first ++ others

mutual

/-- **The text for a node.** -/
def node (walk : Walk m) : Node → Scope → m Chars
  | .text text, _ => pure text
  | .interpolation name escaped, scope => walk.call do
    let value ← walk.resolve scope name
    walk.print escaped value
  | .block name inverted children, scope => walk.call do
    let value ← walk.resolve scope name
    let items ← walk.items value
    if inverted then
      if items.isEmpty then walk.call (walk.nodes children scope) else pure []
    else
      each (fun item => walk.call (walk.nodes children (scope.extend item))) items
  | .inclusion name indent, scope => walk.inclusion scope name indent
  | .document children, scope => walk.call (walk.nodes children scope)

/-- The texts for nodes, one after the other. -/
def nodes (walk : Walk m) : List Node → Scope → m Chars
  | [], _ => pure []
  | node :: rest, scope => do
    let first ← walk.node node scope
    let others ← walk.nodes rest scope
    return first ++ others

end

end Walk

/-! ## Rendering and the direct rendering -/

section Rendering

variable (settings : RenderSettings) (expansion : Expansion)

/-- What rendering walks with. -/
def Rendering.walk : Walk Rendering where
  resolve := resolveName settings
  items value := lift value.items
  print escaped value := lift (printValue settings escaped value)
  inclusion := expansion
  call := id

theorem renderEach_eq_each (body : Value → Rendering Chars) (items : List Value) :
    renderEach body items = Walk.each body items := by
  induction items with
  | nil => rfl
  | cons item rest ih => rw [renderEach, Walk.each, ih]

mutual

/-- **Rendering is a walk.** -/
theorem Rendering.walk_node :
    ∀ (node : Node) (scope : Scope),
      (Rendering.walk settings expansion).node node scope
        = renderNode settings expansion node scope
  | .text _, _ | .interpolation _ _, _ | .inclusion _ _, _ => rfl
  | .block name inverted children, scope => by
    rw [Walk.node, renderNode]
    simp only [Rendering.walk_nodes children, renderEach_eq_each]
    rfl
  | .document children, scope => by
    rw [Walk.node, renderNode, Rendering.walk_nodes children scope]
    rfl

/-- Rendering nodes one after the other is a walk. -/
theorem Rendering.walk_nodes :
    ∀ (nodes : List Node) (scope : Scope),
      (Rendering.walk settings expansion).nodes nodes scope
        = renderNodes settings expansion nodes scope
  | [], _ => by rw [Walk.nodes, renderNodes]
  | node :: rest, scope => by
    rw [Walk.nodes, renderNodes, Rendering.walk_node node scope, Rendering.walk_nodes rest scope]

end

end Rendering

namespace Direct

variable (settings : RenderSettings) (expansion : Direct.Expansion)

/-- What the direct rendering walks with. -/
def walk : Walk Account where
  resolve := resolveName settings
  items value := .lift value.items
  print escaped value := .lift (printValue settings escaped value)
  inclusion := expansion
  call := id

theorem renderEach_eq_each (body : Value → Account Chars) (items : List Value) :
    renderEach body items = Walk.each body items := by
  induction items with
  | nil => rfl
  | cons item rest ih => rw [renderEach, Walk.each, ih]

mutual

/-- **The direct rendering is a walk.** -/
theorem walk_node :
    ∀ (node : Node) (scope : Scope),
      (walk settings expansion).node node scope = renderNode settings expansion node scope
  | .text _, _ | .interpolation _ _, _ | .inclusion _ _, _ => rfl
  | .block name inverted children, scope => by
    rw [Walk.node, renderNode]
    simp only [walk_nodes children, renderEach_eq_each]
    rfl
  | .document children, scope => by
    rw [Walk.node, renderNode, walk_nodes children scope]
    rfl

/-- The direct rendering of nodes one after the other is a walk. -/
theorem walk_nodes :
    ∀ (nodes : List Node) (scope : Scope),
      (walk settings expansion).nodes nodes scope = renderNodes settings expansion nodes scope
  | [], _ => by rw [Walk.nodes, renderNodes]
  | node :: rest, scope => by
    rw [Walk.nodes, renderNodes, walk_node node scope, walk_nodes rest scope]

end

end Direct

/-! ## Walks that correspond -/

/-- **A way in which computations of two kinds correspond**, kept by giving the same answer and by
going on from the same answer. -/
structure Correspondence (m m' : Type → Type) [Monad m] [Monad m'] where
  Holds : {α : Type} → m α → m' α → Prop
  pure {α : Type} (a : α) : Holds (pure a : m α) (pure a : m' α)
  bind {α β : Type} {first : m α} {first' : m' α} {second : α → m β} {second' : α → m' β}
    (hfirst : Holds first first') (hsecond : ∀ a, Holds (second a) (second' a)) :
    Holds (first >>= second) (first' >>= second')

namespace Walk

variable {m m' : Type → Type} [Monad m] [Monad m'] (R : Correspondence m m')

/-- **Two walks correspond** in the parts that they are made of. -/
structure Corresponds (walk : Walk m) (walk' : Walk m') : Prop where
  resolve (scope : Scope) (name : Chars) :
    R.Holds (walk.resolve scope name) (walk'.resolve scope name)
  items (value : Value) : R.Holds (walk.items value) (walk'.items value)
  print (escaped : Bool) (value : Value) :
    R.Holds (walk.print escaped value) (walk'.print escaped value)
  inclusion (scope : Scope) (name indent : Chars) :
    R.Holds (walk.inclusion scope name indent) (walk'.inclusion scope name indent)
  call {body : m Chars} {body' : m' Chars} (h : R.Holds body body') :
    R.Holds (walk.call body) (walk'.call body')

variable {R}

theorem corresponds_each {body : Value → m Chars} {body' : Value → m' Chars}
    (h : ∀ item, R.Holds (body item) (body' item)) (items : List Value) :
    R.Holds (each body items) (each body' items) := by
  induction items with
  | nil => exact R.pure []
  | cons item rest ih =>
    rw [each, each]
    refine R.bind (h item) ?_
    intro first
    exact R.bind ih fun others => R.pure (first ++ others)

variable {walk : Walk m} {walk' : Walk m'}

mutual

/-- **Walks that correspond do so on every node.** -/
theorem corresponds_node (h : Corresponds R walk walk') :
    ∀ (node : Node) (scope : Scope), R.Holds (walk.node node scope) (walk'.node node scope)
  | .text text, _ => by
    rw [node, node]
    exact R.pure text
  | .interpolation name escaped, scope => by
    rw [node, node]
    exact h.call (R.bind (h.resolve scope name) (h.print escaped))
  | .block name inverted children, scope => by
    rw [node, node]
    refine h.call (R.bind (h.resolve scope name) fun value => R.bind (h.items value) ?_)
    intro items
    split
    · split
      · exact h.call (corresponds_nodes h children scope)
      · exact R.pure []
    · refine corresponds_each (fun item => ?_) items
      exact h.call (corresponds_nodes h children (scope.extend item))
  | .inclusion name indent, scope => by
    rw [node, node]
    exact h.inclusion scope name indent
  | .document children, scope => by
    rw [node, node]
    exact h.call (corresponds_nodes h children scope)

/-- Walks that correspond do so on nodes one after the other. -/
theorem corresponds_nodes (h : Corresponds R walk walk') :
    ∀ (nodes : List Node) (scope : Scope),
      R.Holds (walk.nodes nodes scope) (walk'.nodes nodes scope)
  | [], _ => by
    rw [nodes, nodes]
    exact R.pure []
  | node :: rest, scope => by
    rw [nodes, nodes]
    refine R.bind (corresponds_node h node scope) ?_
    intro first
    exact R.bind (corresponds_nodes h rest scope) fun others => R.pure (first ++ others)

end

end Walk

end Mustache
