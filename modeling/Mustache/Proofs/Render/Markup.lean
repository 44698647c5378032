import Mustache.Proofs.Lexer.Tiling
import Mustache.Proofs.Render.Law
import Mustache.Proofs.Text.Entity

/-!
# No markup from data

The escaper of HTML leaves no markup in a text (`ShowsNoMarkup`), and texts of this kind can be put
one after another. So a rendering prints no markup if nothing but the escaper could let it through:
every interpolation escapes, plain text has none, and no value is marked as safe
(`renderFrom_showsNoMarkup`).

Nothing else is asked of the data or of the store. What a value looks like as text does not matter,
since all of it goes through the escaper.
-/

namespace Mustache

/-- **A node lets no markup through**: it escapes what it prints, and plain text has none. -/
def Node.IsInert : Node → Prop
  | .text shown => ∀ c ∈ shown, c ∉ htmlMarkup
  | .interpolation _ escaped => escaped = true
  | .block .. | .inclusion .. | .document _ => True

/-- A value that counts as safe holds a text that is marked so. -/
theorem Value.exists_reaches_safe {value : Value} (h : value.isSafe = true) :
    ∃ text, value.Reaches (.scalar (.safe text)) := by
  fun_induction Value.isSafe value with
  | case1 text => exact ⟨text, .self _⟩
  | case2 value ih =>
    obtain ⟨text, hreached⟩ := ih h
    exact ⟨text, .inside hreached⟩
  | case3 => cases h

/-- What is printed for a value that is escaped and not safe. -/
theorem showsNoMarkup_printValue {settings : RenderSettings}
    (hescape : settings.escape = some Escaper.html.apply) {value : Value} {output : Chars}
    (hsafe : value.isSafe = false) (h : printValue settings true value = .ok output) :
    ShowsNoMarkup output := by
  obtain ⟨text, -, hprinted⟩ := bind_eq_ok.mp h
  rw [hescape] at hprinted
  simp only [hsafe, Bool.not_false, Bool.and_self, if_true] at hprinted
  cases hprinted
  exact showsNoMarkup_escapeHtml text

section Law

variable {settings : RenderSettings} {store : ChangingStore} {root : Node} {scope : Scope}

/-- **Printing no markup is a law of rendering.** -/
theorem renderLaw_showsNoMarkup (hescape : settings.escape = some Escaper.html.apply)
    (hinert : ∀ target, root.Reaches store target → target.IsInert)
    (hunmarked : ∀ text, ¬ scope.Reaches (.scalar (.safe text))) :
    RenderLaw settings store root scope
      fun _ outcome _ => ∀ text, outcome = .ok text → ShowsNoMarkup text where
  nothing _ text h := by
    cases h
    exact .nil
  append {room first told others outcome} hfirst hothers text h := by
    cases outcome with
    | ok second =>
      cases h
      exact (hfirst first rfl).append (hothers second rfl)
    | error fault => cases h
  remark _ _ _ text h := by
    cases h
    exact .nil
  text _ text hnode output h := by
    cases h
    exact .of_plain (hinert _ hnode)
  value _ name escaped value text hnode hvalue htext output h := by
    cases h
    have hescaped : escaped = true := hinert _ hnode
    have hsafe : value.isSafe = false := by
      rcases hvalue with ⟨frame, hframe, hreached⟩ | rfl
      · refine Bool.eq_false_iff.mpr fun hsafe => ?_
        obtain ⟨text, htext⟩ := value.exists_reaches_safe hsafe
        exact hunmarked text ⟨frame, hframe, hreached.trans htext⟩
      · rfl
    rw [hescaped] at htext
    exact showsNoMarkup_printValue hescape hsafe htext
  fails _ _ _ text h := by cases h
  tooDeep _ _ text h := by cases h
  opened _ h := h

end Law

/-- **No markup from data**: what is printed has no markup, and each ampersand begins an entity. -/
theorem renderFrom_showsNoMarkup {settings : RenderSettings} {store : ChangingStore} {node : Node}
    {scope : Scope} {output : Chars} (hescape : settings.escape = some Escaper.html.apply)
    (hinert : ∀ target, node.Reaches store target → target.IsInert)
    (hunmarked : ∀ text, ¬ scope.Reaches (.scalar (.safe text)))
    (houtput : (renderFrom settings store node scope .fresh).1 = .ok output) :
    (∀ c ∈ ['<', '>', '"', '\''], c ∉ output)
      ∧ ∀ before after, output = before ++ '&' :: after →
        ∃ entity ∈ htmlEntities, entity <+: '&' :: after := by
  have hlaw := renderLaw_showsNoMarkup hescape hinert hunmarked
  obtain ⟨-, told, -, hshows⟩ := hlaw.renderFrom (RenderState.keptFrom_fresh store)
  have hclean := hshows output houtput
  exact ⟨hclean.not_mem, hclean.entity⟩

/-- A name that holds markup, and a partial that runs through a tree by including itself. -/
theorem renderFrom_showsNoMarkup_recursive :
    let settings : RenderSettings := ⟨.raise, .raise, some Escaper.html.apply, .whole 2⟩
    let store : ChangingStore := fun _ _ =>
      .ok "\x7b\x7bx\x7d\x7d\x7b\x7b#c\x7d\x7d\x7b\x7b>n\x7d\x7d\x7b\x7b/c\x7d\x7d".toList
    let tree (name : Chars) (below : List Value) : Value :=
      .mapping [(.ofChars ['x'], .ofChars name), (.ofChars ['c'], .list below)]
    let scope := Scope.ofValue (tree ['<', 'b'] [tree ['a', '&'] []])
    let output := "&lt;ba&amp;".toList
    (∀ target, (Node.inclusion ['n'] []).Reaches store target → target.IsInert)
      ∧ (∀ text, ¬ scope.Reaches (.scalar (.safe text)))
      ∧ (renderFrom settings store (.inclusion ['n'] []) scope .fresh).1 = .ok output
      ∧ ∀ before after, output = before ++ '&' :: after →
        ∃ entity ∈ htmlEntities, entity <+: '&' :: after := by
  intro settings store tree scope output
  have hgives : ∀ name document, store.Gives name [] document → document.children
      = [.interpolation ['x'] true, .block ['c'] false [.inclusion ['n'] []]] := by
    rintro name document ⟨journal, text, htext, hparse⟩
    cases htext
    rw [indentText, if_pos rfl, Document.parse, tokenize_eq_runWithin] at hparse
    cases hparse
    rfl
  -- a partial tag, and the two nodes of its document, reach nothing else
  have hinert : ∀ {start target}, Node.Reaches store start target →
      start ∈ [.inclusion ['n'] [], .interpolation ['x'] true,
        .block ['c'] false [.inclusion ['n'] []]] → target.IsInert := by
    intro start target h hstart
    clear_value store
    simp only [List.mem_cons, List.not_mem_nil, or_false] at hstart
    induction h with
    | self start =>
      rcases hstart with rfl | rfl | rfl
      · trivial
      · rfl
      · trivial
    | blockChild hmem _ ih =>
      obtain hstart | hstart | hstart := hstart <;> cases hstart
      exact ih (.inl (List.mem_singleton.mp hmem))
    | documentChild =>
      obtain hstart | hstart | hstart := hstart <;> cases hstart
    | partialChild hpartial hmem _ ih =>
      obtain hstart | hstart | hstart := hstart <;> cases hstart
      rw [hgives _ _ hpartial] at hmem
      rcases List.mem_cons.mp hmem with hchild | hmem
      · exact ih (.inr (.inl hchild))
      · exact ih (.inr (.inr (List.mem_singleton.mp hmem)))
  have htree : ∀ name below, (∀ item ∈ below, ∀ text, ¬ item.Reaches (.scalar (.safe text))) →
      ∀ text, ¬ (tree name below).Reaches (.scalar (.safe text)) := by
    intro name below hbelow text hreached
    obtain _ | _ | _ | _ | ⟨hentry, hreached⟩ := hreached
    rcases List.mem_cons.mp hentry with hentry | hentry
    · cases hentry
      cases hreached
    · cases List.mem_singleton.mp hentry
      obtain _ | ⟨hitem, hreached⟩ := hreached
      exact hbelow _ hitem text hreached
  have hunmarked : ∀ text, ¬ scope.Reaches (.scalar (.safe text)) := by
    rintro text ⟨frame, hframe, hreached⟩
    cases List.mem_singleton.mp hframe
    refine htree _ _ (fun item hitem => ?_) text hreached
    cases List.mem_singleton.mp hitem
    exact htree _ _ fun item hitem => absurd hitem List.not_mem_nil
  have houtput : (renderFrom settings store (.inclusion ['n'] []) scope .fresh).1
      = .ok output := by
    simp only [settings, store, tree, scope, output]
    decide +kernel
  have hfirst : ∀ target, (Node.inclusion ['n'] []).Reaches store target → target.IsInert :=
    fun target h => hinert h List.mem_cons_self
  exact ⟨hfirst, hunmarked, houtput,
    (renderFrom_showsNoMarkup rfl hfirst hunmarked houtput).2⟩

end Mustache
