import Mustache.Proofs.Environment.Alone
import Mustache.Proofs.Render.Walk

/-!
# Without escaping

There are two ways to have values printed as they are. Escaping can be turned off in the
environment; or every tag can ask for it, in the template and in each partial that is read. The law
says that they come to the same (`Environment.renderTemplateFrom_unescaped`): a tree in which no tag
asks for escaping prints, whatever the escaper does, what the tree prints where nothing is escaped.

To say so of every escaper, rendering is given one that may do anything (`AnyEscaper`): it may fail,
or change the state. And documents are changed as they are read, so that no partial is left out
(`renderWith`). With the escaper of the settings, and documents as they are, this is rendering
(`renderWith_id`).
-/

namespace Mustache

open Rendering

/-! ## Marking a tree -/

mutual

/-- **The node in which no tag asks for escaping.** -/
def Node.unescaped : Node → Node
  | .text plain => .text plain
  | .interpolation name _ => .interpolation name false
  | .block name inverted children => .block name inverted (Node.allUnescaped children)
  | .inclusion name indent => .inclusion name indent
  | .document children => .document (Node.allUnescaped children)

/-- The nodes in which no tag asks for escaping. -/
def Node.allUnescaped : List Node → List Node
  | [] => []
  | node :: rest => node.unescaped :: Node.allUnescaped rest

end

/-- The document in which no tag asks for escaping. -/
def Document.unescaped (document : Document) : Document := ⟨Node.allUnescaped document.children⟩

namespace Walk

variable {m : Type → Type} [Monad m]

/-- The walk that prints every value as for a tag that does not ask for escaping. -/
def unescaping (walk : Walk m) : Walk m := { walk with print := fun _ => walk.print false }

mutual

/-- **A marked node is walked as the node by a walk that does not escape.** -/
theorem node_unescaped (walk : Walk m) :
    ∀ (node : Node) (scope : Scope),
      walk.node node.unescaped scope = walk.unescaping.node node scope
  | .text _, _ | .interpolation _ _, _ | .inclusion _ _, _ => rfl
  | .block name inverted children, scope => by
    rw [Node.unescaped, node, node]
    simp only [nodes_unescaped walk children]
    rfl
  | .document children, scope => by
    rw [Node.unescaped, node, node, nodes_unescaped walk children scope]
    rfl

/-- Marked nodes are walked as the nodes are. -/
theorem nodes_unescaped (walk : Walk m) :
    ∀ (nodes : List Node) (scope : Scope),
      walk.nodes (Node.allUnescaped nodes) scope = walk.unescaping.nodes nodes scope
  | [], _ => rfl
  | node :: rest, scope => by
    rw [Node.allUnescaped, nodes, nodes, node_unescaped walk node scope,
      nodes_unescaped walk rest scope]

end

end Walk

/-! ## Escapers of any kind -/

/-- **An escaper that may do anything** with a text: fail, and read and change the state. -/
abbrev AnyEscaper := Chars → Rendering Chars

/-- The escaper that only gives a text, or fails. -/
def AnyEscaper.ofText (escape : Chars → Except Fault Chars) : AnyEscaper := fun text =>
  lift (escape text)

/-- **Prints a value**: escaped, if the tag asks for it, an escaper is set, and the text is not safe
already. -/
def printWith (escape : Option AnyEscaper) (escaped : Bool) (value : Value) : Rendering Chars := do
  let text ← lift value.text
  match escape with
  | some escape => if escaped && !value.isSafe then escape text else return text
  | none => return text

/-- A tag that does not ask for escaping prints the text as it is. -/
theorem printWith_false (escape : Option AnyEscaper) (value : Value) :
    printWith escape false value = lift value.text := by
  unfold printWith
  cases value.text with
  | ok text => cases escape <;> rfl
  | error fault => rfl

/-- An escaper that only gives a text, or fails, prints what is printed for a value. -/
theorem printWith_ofText (settings : RenderSettings) (escaped : Bool) (value : Value) :
    printWith (settings.escape.map AnyEscaper.ofText) escaped value
      = lift (printValue settings escaped value) := by
  unfold printWith printValue
  cases value.text with
  | error fault => rfl
  | ok text =>
    cases settings.escape with
    | none => rfl
    | some escape =>
      show (if escaped && !value.isSafe then lift (escape text) else pure text)
        = (lift (if escaped && !value.isSafe then escape text else pure text) : Rendering Chars)
      split <;> rfl

section With

variable (settings : RenderSettings) (escape : Option AnyEscaper) (change : Document → Document)
  (store : ChangingStore)

/-- What rendering walks with, with an escaper of any kind. -/
def Rendering.walkWith (expansion : Expansion) : Walk Rendering where
  resolve := resolveName settings
  items value := lift value.items
  print := printWith escape
  inclusion := expansion
  call := id

/-- **What a partial tag means** with so much room for expansions, with an escaper of any kind, and
documents changed when they are read. -/
def expandWith : Nat → Expansion
  | room, scope, name, indent => do
    match ← loadFrom settings store name indent with
    | none => return []
    | some document =>
      note (.loaded name)
      deeper <|
        match room with
        | 0 => fail (.tooDeep name settings.limit)
        | room + 1 =>
          opened name ((walkWith settings escape (expandWith room)).nodes
            (change document).children scope)

/-- **Renders a node** with an escaper of any kind, and documents changed when they are read. The
escaper of the settings is not used. -/
def renderWith (node : Node) (scope : Scope) : Rendering Chars := fun state =>
  (walkWith settings escape
    (expandWith settings escape change store (settings.roomAbove state.depth))).node node scope
    state

/-! ## Nothing is changed -/

/-- With the escaper of the settings, rendering walks as it does. -/
theorem Rendering.walkWith_ofText (expansion : Expansion) :
    walkWith settings (settings.escape.map AnyEscaper.ofText) expansion
      = Rendering.walk settings expansion := by
  unfold walkWith Rendering.walk
  congr 1
  funext escaped value
  exact printWith_ofText settings escaped value

/-- With the escaper of the settings, and documents as they are, a partial tag means what it
means, by induction on the room. -/
theorem expandWith_id (room : Nat) :
    expandWith settings (settings.escape.map AnyEscaper.ofText) id store room
      = expandFrom settings store room := by
  induction room with
  | zero =>
    funext scope name indent
    unfold expandWith expandFrom
    rfl
  | succ room ih =>
    funext scope name indent
    unfold expandWith expandFrom
    refine congrArg (loadFrom settings store name indent >>= ·) (funext ?_)
    intro kept
    cases kept with
    | none => rfl
    | some document =>
      have hbody : (walkWith settings (settings.escape.map AnyEscaper.ofText)
            (expandWith settings (settings.escape.map AnyEscaper.ofText) id store room)).nodes
            document.children scope
          = renderNodes settings (expandFrom settings store room) document.children scope := by
        rw [ih, Rendering.walkWith_ofText, Rendering.walk_nodes]
      exact congrArg (fun body => note (.loaded name) >>= fun _ => deeper (opened name body)) hbody

/-- **With the escaper of the settings, and documents as they are, this is rendering.** -/
theorem renderWith_id (node : Node) (scope : Scope) :
    renderWith settings (settings.escape.map AnyEscaper.ofText) id store node scope
      = renderFrom settings store node scope := by
  funext state
  unfold renderWith renderFrom
  rw [expandWith_id, Rendering.walkWith_ofText, Rendering.walk_node]

/-! ## Nothing is escaped -/

section NoEscaper

variable {settings} (hnone : settings.escape = none)

include hnone

/-- **Where nothing is escaped, a tree is walked as the marked tree is** by any escaper. -/
theorem Rendering.walk_eq_unescaping (expansion : Expansion) :
    Rendering.walk settings expansion = (walkWith settings escape expansion).unescaping := by
  unfold Rendering.walk walkWith Walk.unescaping
  congr 1
  funext escaped value
  have hplain : printValue settings escaped value = value.text := by
    unfold printValue
    rw [hnone]
    exact bind_pure value.text
  rw [hplain]
  exact (printWith_false escape value).symm

/-- Where nothing is escaped, nodes are rendered as the marked nodes are walked. -/
theorem renderNodes_eq_unescaped (expansion : Expansion) (nodes : List Node) (scope : Scope) :
    renderNodes settings expansion nodes scope
      = (walkWith settings escape expansion).nodes (Node.allUnescaped nodes) scope := by
  rw [Walk.nodes_unescaped, ← Rendering.walk_eq_unescaping escape hnone, Rendering.walk_nodes]

/-- Where nothing is escaped, a partial tag means what it means when documents are marked, by
induction on the room. -/
theorem expandFrom_eq_unescaped (room : Nat) :
    expandFrom settings store room
      = expandWith settings escape Document.unescaped store room := by
  induction room with
  | zero =>
    funext scope name indent
    unfold expandFrom expandWith
    rfl
  | succ room ih =>
    funext scope name indent
    unfold expandFrom expandWith
    refine congrArg (loadFrom settings store name indent >>= ·) (funext ?_)
    intro kept
    cases kept with
    | none => rfl
    | some document =>
      have hbody : renderNodes settings (expandFrom settings store room) document.children scope
          = (walkWith settings escape
              (expandWith settings escape Document.unescaped store room)).nodes
              document.unescaped.children scope := by
        rw [← ih]
        exact renderNodes_eq_unescaped escape hnone _ document.children scope
      exact congrArg (fun body => note (.loaded name) >>= fun _ => deeper (opened name body)) hbody

/-- **Where nothing is escaped, a node is rendered as the marked node is** by any escaper, with
documents marked when they are read. -/
theorem renderFrom_eq_unescaped (node : Node) (scope : Scope) :
    renderFrom settings store node scope
      = renderWith settings escape Document.unescaped store node.unescaped scope := by
  funext state
  unfold renderFrom renderWith
  rw [Walk.node_unescaped, ← Rendering.walk_eq_unescaping escape hnone, Rendering.walk_node,
    expandFrom_eq_unescaped escape store hnone]

end NoEscaper

end With

/-! ## Environments -/

namespace Environment

/-- **Renders a compiled template** with the policies and the limit of an environment, with an
escaper of any kind, and with documents changed, that of the template and those read. -/
def renderTemplateWith (environment : Environment) (escape : Option AnyEscaper)
    (change : Document → Document) (host : ChangingHost) (template : Template) (data : Data)
    (extra : PartialsArgument) : Rendering Chars := do
  let store ← lift (environment.partials extra)
  let scope ← lift data.orEmpty.toScope
  renderWith environment.renderSettings escape change (store.changing host)
    (change template.document).toNode scope

/-- With the escaper in effect, and documents as they are, this is how the environment renders. -/
theorem renderTemplateWith_id (environment : Environment) (host : ChangingHost)
    (template : Template) (data : Data) (extra : PartialsArgument) :
    environment.renderTemplateWith (environment.renderSettings.escape.map AnyEscaper.ofText) id host
        template data extra
      = environment.renderTemplateFrom host template data extra := by
  unfold renderTemplateWith renderTemplateFrom
  simp only [renderWith_id]
  rfl

/-- **Turning escaping off is marking every tag.** With escaping off, an environment renders a
template as the template is rendered by any escaper when no tag asks for escaping, in the template
or in any partial that is read. -/
theorem renderTemplateFrom_unescaped {environment : Environment}
    (hoff : environment.settings.escapeHtml = false) (escape : Option AnyEscaper)
    (host : ChangingHost) (template : Template) (data : Data) (extra : PartialsArgument) :
    environment.renderTemplateFrom host template data extra
      = environment.renderTemplateWith escape Document.unescaped host template data extra := by
  have hnone : environment.renderSettings.escape = none := by
    unfold renderSettings escaperInEffect
    rw [hoff]
    rfl
  unfold renderTemplateFrom renderTemplateWith
  simp only [renderFrom_eq_unescaped escape _ hnone]
  rfl

/-- **A tag that asks for escaping, in a template and in a partial**, where escaping is off. An
escaper that fails prints the same when both are marked, and fails when they are not. -/
theorem renderTemplateFrom_unescaped_failing :
    let settings : Settings := ⟨.ofChars Policy.raise.name, .ofChars Policy.raise.name, 3, false⟩
    let registered : Table := [(['p'], "\x7b\x7bx\x7d\x7d".toList)]
    let environment : Environment := ⟨settings, some .bracket, registered, none⟩
    let template : Template := ⟨[], [], ⟨[.interpolation ['x'] true, .inclusion ['p'] []]⟩⟩
    let data : Data := .value (.mapping [(.ofChars ['x'], .ofChars ['<'])])
    let escape : Option AnyEscaper := some fun text => fail (.unresolved text)
    let host : ChangingHost := fun _ _ name => .error (.partialNotFound name)
    environment.settings.escapeHtml = false
      ∧ (environment.renderTemplateFrom host template data .nothing .fresh).1 = .ok ['<', '<']
      ∧ (environment.renderTemplateWith escape Document.unescaped host template data .nothing
          .fresh).1 = .ok ['<', '<']
      ∧ (environment.renderTemplateWith escape id host template data .nothing .fresh).1
        = .error (.unresolved ['<']) := by
  intro settings registered environment template data escape host
  have hoff : environment.settings.escapeHtml = false := rfl
  have hrun : (environment.renderTemplateFrom host template data .nothing .fresh).1
      = .ok ['<', '<'] := by
    simp only [settings, registered, environment, template, data, host]
    decide +kernel
  refine ⟨hoff, hrun, ?_, ?_⟩
  · rw [← renderTemplateFrom_unescaped hoff escape host template data .nothing]
    exact hrun
  · simp only [settings, registered, environment, template, data, escape, host]
    decide +kernel

end Environment

end Mustache
