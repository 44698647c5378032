import Mathlib.Data.List.Basic
import Mustache.Escape

/-!
# Entities

The escaper of HTML leaves no markup in a text: no angle bracket and no quotation mark, and no
ampersand but those that begin an entity (`ShowsNoMarkup`).

No entity begins another (`entity_prefix_free`), so an entity at the front of a text is read in one
way only, whatever follows it (`readEntity?_eq_some_iff`). **Unescaping** replaces the entities of a
text by what they stand for, from left to right and once. It undoes escaping, also where the text
that was escaped holds entities or parts of them (`unescapeHtml_escapeHtml`), and what shows no markup
is what can be unescaped and escaped again (`escapeHtml_decodes`).
-/

namespace Mustache

/-! ## No markup -/

/-- The characters that mean something in HTML. -/
def htmlMarkup : List Char := ['&', '<', '>', '"', '\'']

/-- The entities that stand for them. -/
def htmlEntities : List Chars :=
  ["&amp;".toList, "&lt;".toList, "&gt;".toList, "&quot;".toList, "&#x27;".toList]

/-- **A text shows no markup**: an ampersand is one that begins an entity, and no other character
means anything in HTML. -/
structure ShowsNoMarkup (text : Chars) : Prop where
  plain : ∀ c ∈ text, c ∈ htmlMarkup → c = '&'
  entity : ∀ before after, text = before ++ '&' :: after →
    ∃ entity ∈ htmlEntities, entity <+: '&' :: after

namespace ShowsNoMarkup

theorem nil : ShowsNoMarkup [] := by
  refine ⟨fun c hc => ?_, fun before after h => ?_⟩
  · cases hc
  · cases before <;> cases h

/-- Two such texts, one after the other. -/
theorem append {first second : Chars} (hfirst : ShowsNoMarkup first)
    (hsecond : ShowsNoMarkup second) : ShowsNoMarkup (first ++ second) := by
  refine ⟨fun c hc hmarkup => ?_, fun before after h => ?_⟩
  · rcases List.mem_append.mp hc with hc | hc
    · exact hfirst.plain c hc hmarkup
    · exact hsecond.plain c hc hmarkup
  · -- the ampersand stands in one of the two
    rcases List.append_eq_append_iff.mp h with ⟨between, -, hbehind⟩ | ⟨between, hfront, hbehind⟩
    · exact hsecond.entity between after hbehind
    · cases between with
      | nil => exact hsecond.entity [] after hbehind.symm
      | cons c rest =>
        obtain ⟨rfl, rfl⟩ := List.cons.inj hbehind
        obtain ⟨entity, hmem, hstarts⟩ := hfirst.entity before rest hfront
        exact ⟨entity, hmem, hstarts.trans (List.prefix_append ('&' :: rest) second)⟩

/-- There is no angle bracket and no quotation mark in such a text. -/
theorem not_mem {text : Chars} (h : ShowsNoMarkup text) :
    ∀ c ∈ ['<', '>', '"', '\''], c ∉ text := by
  have hmarkup : ∀ c ∈ ['<', '>', '"', '\''], c ∈ htmlMarkup ∧ c ≠ '&' := by
    simp [htmlMarkup]
  intro c hc hmem
  exact (hmarkup c hc).2 (h.plain c hmem (hmarkup c hc).1)

/-- A text without any of the characters. -/
theorem of_plain {text : Chars} (h : ∀ c ∈ text, c ∉ htmlMarkup) : ShowsNoMarkup text := by
  refine ⟨fun c hc hmarkup => absurd hmarkup (h c hc), fun before after htext => ?_⟩
  have hamp : '&' ∈ text := htext ▸ List.mem_append_right _ List.mem_cons_self
  exact absurd (by decide) (h '&' hamp)

/-- An entity begins with an ampersand and has no other markup. -/
theorem of_entity {entity : Chars} (h : entity ∈ htmlEntities) : ShowsNoMarkup entity := by
  have hshape : ∀ entity ∈ htmlEntities,
      entity.head? = some '&' ∧ ∀ c ∈ entity.tail, c ∉ htmlMarkup := by
    simp [htmlEntities, htmlMarkup]
  obtain ⟨hhead, htail⟩ := hshape entity h
  obtain ⟨rest, rfl⟩ := List.head?_eq_some_iff.mp hhead
  refine ⟨fun c hc hmarkup => ?_, fun before after htext => ?_⟩
  · rcases List.mem_cons.mp hc with rfl | hc
    · rfl
    · exact absurd hmarkup (htail c hc)
  · cases before with
    | nil => exact ⟨_, h, [], (List.append_nil _).trans htext⟩
    | cons c before =>
      have hamp : '&' ∈ rest :=
        (List.cons.inj htext).2 ▸ List.mem_append_right _ List.mem_cons_self
      exact absurd (by decide) (htail '&' hamp)

end ShowsNoMarkup

/-- An entity stands for each character of markup, and for no other. -/
theorem entity?_cases (c : Char) :
    (∃ entity ∈ htmlEntities, entity? c = some entity) ∨ c ∉ htmlMarkup ∧ entity? c = none := by
  by_cases hmarkup : c ∈ htmlMarkup
  · have hentities : ∀ c ∈ htmlMarkup, ∃ entity ∈ htmlEntities, entity? c = some entity := by
      simp [htmlEntities, htmlMarkup, entity?]
    exact .inl (hentities c hmarkup)
  · refine .inr ⟨hmarkup, ?_⟩
    unfold entity?
    split
    case h_6 => rfl
    all_goals exact absurd (by decide) hmarkup

/-- **What is escaped shows no markup.** -/
theorem showsNoMarkup_escapeHtml (text : Chars) : ShowsNoMarkup (escapeHtml text) := by
  induction text with
  | nil => exact .nil
  | cons c rest ih =>
    rw [escapeHtml, List.flatMap_cons]
    refine .append ?_ ih
    obtain ⟨entity, hmem, hentity⟩ | ⟨hplain, hnone⟩ := entity?_cases c
    · rw [hentity]
      exact .of_entity hmem
    · rw [hnone]
      exact .of_plain fun other hother => List.mem_singleton.mp hother ▸ hplain

/-! ## Reading entities -/

/-- What stands behind the entity of a character, if that entity is at the front. -/
def readEntityOf? (text : Chars) (c : Char) : Option Chars :=
  (entity? c).bind text.dropPrefix?

/-- **The character that an entity at the front stands for**, and the text behind the entity. -/
def readEntity? (text : Chars) : Option (Char × Chars) :=
  htmlMarkup.findSome? fun c => (readEntityOf? text c).map (c, ·)

theorem mem_htmlMarkup_of_entity? {c : Char} {entity : Chars} (h : entity? c = some entity) :
    c ∈ htmlMarkup := by
  unfold entity? at h
  split at h
  case h_6 => cases h
  all_goals decide

theorem mem_htmlEntities_of_entity? {c : Char} {entity : Chars} (h : entity? c = some entity) :
    entity ∈ htmlEntities := by
  obtain ⟨other, hmem, hother⟩ | ⟨-, hnone⟩ := entity?_cases c
  · rw [h, Option.some.injEq] at hother
    exact hother ▸ hmem
  · rw [h] at hnone
    cases hnone

theorem exists_of_mem_htmlEntities {entity : Chars} (h : entity ∈ htmlEntities) :
    ∃ c, entity? c = some entity := by
  have hall : ∀ entity ∈ htmlEntities, ∃ c ∈ htmlMarkup, entity? c = some entity := by
    simp [htmlEntities, htmlMarkup, entity?]
  obtain ⟨c, -, hentity⟩ := hall entity h
  exact ⟨c, hentity⟩

/-- An entity is an ampersand and more. -/
theorem exists_cons_of_entity? {c : Char} {entity : Chars} (h : entity? c = some entity) :
    ∃ rest, entity = '&' :: rest := by
  have hall : ∀ entity ∈ htmlEntities, entity.head? = some '&' := by simp [htmlEntities]
  exact List.head?_eq_some_iff.mp (hall entity (mem_htmlEntities_of_entity? h))

/-- **No entity begins another.** -/
theorem entity_prefix_free {c d : Char} {first second : Chars} (hc : entity? c = some first)
    (hd : entity? d = some second) (h : first <+: second) : c = d := by
  have hall : htmlMarkup.all (fun c => htmlMarkup.all fun d =>
      ! ((entity? c).getD []).isPrefixOf ((entity? d).getD []) || c == d) = true := by decide
  have hpair := List.all_eq_true.mp (List.all_eq_true.mp hall c (mem_htmlMarkup_of_entity? hc)) d
    (mem_htmlMarkup_of_entity? hd)
  rw [hc, hd, Option.getD_some, Option.getD_some, List.isPrefixOf_iff_prefix.mpr h] at hpair
  exact beq_iff_eq.mp hpair

/-- Two entities at the front of one text are the same. -/
theorem entity_eq_of_append {c d : Char} {first second behind other : Chars}
    (hc : entity? c = some first) (hd : entity? d = some second)
    (h : first ++ behind = second ++ other) : c = d := by
  have hfirst : first <+: second ++ other := ⟨behind, h⟩
  rcases List.prefix_or_prefix_of_prefix hfirst (List.prefix_append second other) with h | h
  · exact entity_prefix_free hc hd h
  · exact (entity_prefix_free hd hc h).symm

theorem readEntityOf?_eq_some_iff {text behind : Chars} {c : Char} :
    readEntityOf? text c = some behind ↔ ∃ entity, entity? c = some entity
      ∧ text = entity ++ behind := by
  rw [readEntityOf?, Option.bind_eq_some_iff]
  refine exists_congr fun entity => and_congr_right fun _ => ?_
  rw [List.dropPrefix?_eq_some_iff]
  constructor
  · rintro ⟨taken, rfl, htaken⟩
    rw [eq_of_beq htaken]
  · rintro rfl
    exact ⟨entity, rfl, beq_self_eq_true entity⟩

/-- **An entity is read where it stands**, and as one character only. -/
theorem readEntity?_eq_some_iff {text behind : Chars} {c : Char} :
    readEntity? text = some (c, behind) ↔ ∃ entity, entity? c = some entity
      ∧ text = entity ++ behind := by
  have hread : ∀ {d other}, readEntity? text = some (d, other) →
      ∃ entity, entity? d = some entity ∧ text = entity ++ other := by
    intro d other h
    obtain ⟨first, -, hfirst⟩ := List.exists_of_findSome?_eq_some h
    obtain ⟨rest, hrest, heq⟩ := Option.map_eq_some_iff.mp hfirst
    cases heq
    exact readEntityOf?_eq_some_iff.mp hrest
  refine ⟨hread, ?_⟩
  rintro ⟨entity, hentity, htext⟩
  have hsome : (readEntity? text).isSome = true := by
    rw [readEntity?, List.findSome?_isSome_iff]
    refine ⟨c, mem_htmlMarkup_of_entity? hentity, ?_⟩
    rw [readEntityOf?_eq_some_iff.mpr ⟨entity, hentity, htext⟩]
    rfl
  -- whatever is read has the entity of the same character at the front
  obtain ⟨⟨d, other⟩, hother⟩ := Option.isSome_iff_exists.mp hsome
  obtain ⟨second, hsecond, htext'⟩ := hread hother
  obtain rfl := entity_eq_of_append hentity hsecond (htext.symm.trans htext')
  rw [hentity, Option.some.injEq] at hsecond
  subst hsecond
  rw [hother, List.append_cancel_left (htext.symm.trans htext')]

theorem readEntity?_eq_none_of_ne {c : Char} (h : c ≠ '&') (rest : Chars) :
    readEntity? (c :: rest) = none := by
  cases hread : readEntity? (c :: rest) with
  | none => rfl
  | some read =>
    obtain ⟨entity, hentity, htext⟩ := readEntity?_eq_some_iff.mp hread
    obtain ⟨tail, rfl⟩ := exists_cons_of_entity? hentity
    exact absurd (List.cons.inj htext).1 h

/-- Behind an entity there is less to read. -/
theorem length_lt_of_readEntity? {text behind : Chars} {c : Char}
    (h : readEntity? text = some (c, behind)) : behind.length < text.length := by
  obtain ⟨entity, hentity, rfl⟩ := readEntity?_eq_some_iff.mp h
  obtain ⟨tail, rfl⟩ := exists_cons_of_entity? hentity
  rw [List.length_append, List.length_cons]
  omega

/-! ## Unescaping -/

/-- **HTML escaping undone**: from left to right and once, each entity becomes the character that it
stands for. -/
def unescapeHtml (text : Chars) : Chars :=
  match text with
  | [] => []
  | c :: rest =>
    match h : readEntity? (c :: rest) with
    | some (d, behind) =>
      have := length_lt_of_readEntity? h
      d :: unescapeHtml behind
    | none => c :: unescapeHtml rest
termination_by text.length
decreasing_by
  · exact this
  · exact Nat.lt_succ_self rest.length

/-- An entity is replaced, and what follows it is read on its own. -/
theorem unescapeHtml_append {c : Char} {entity : Chars} (h : entity? c = some entity)
    (behind : Chars) : unescapeHtml (entity ++ behind) = c :: unescapeHtml behind := by
  obtain ⟨tail, rfl⟩ := exists_cons_of_entity? h
  have hread : readEntity? ('&' :: tail ++ behind) = some (c, behind) :=
    readEntity?_eq_some_iff.mpr ⟨_, h, rfl⟩
  rw [List.cons_append] at hread ⊢
  rw [unescapeHtml]
  split
  next d other hother =>
    rw [hread, Option.some.injEq] at hother
    cases hother
    rfl
  next hnone =>
    rw [hread] at hnone
    cases hnone

/-- What is no ampersand stays as it is. -/
theorem unescapeHtml_cons {c : Char} (h : c ≠ '&') (rest : Chars) :
    unescapeHtml (c :: rest) = c :: unescapeHtml rest := by
  rw [unescapeHtml]
  split
  next d other hother =>
    rw [readEntity?_eq_none_of_ne h] at hother
    cases hother
  next => rfl

theorem escapeHtml_cons_of_entity? {c : Char} {entity : Chars} (h : entity? c = some entity)
    (rest : Chars) : escapeHtml (c :: rest) = entity ++ escapeHtml rest := by
  rw [escapeHtml, List.flatMap_cons, h]
  rfl

theorem escapeHtml_cons_of_plain {c : Char} (h : c ∉ htmlMarkup) (rest : Chars) :
    escapeHtml (c :: rest) = c :: escapeHtml rest := by
  have hnone : entity? c = none :=
    Option.eq_none_iff_forall_ne_some.mpr fun _ hsome => h (mem_htmlMarkup_of_entity? hsome)
  rw [escapeHtml, List.flatMap_cons, hnone]
  rfl

/-- **What was escaped is given back.** -/
theorem unescapeHtml_escapeHtml (text : Chars) : unescapeHtml (escapeHtml text) = text := by
  induction text with
  | nil => rw [escapeHtml, List.flatMap_nil, unescapeHtml]
  | cons c rest ih =>
    obtain ⟨entity, -, hentity⟩ | ⟨hplain, -⟩ := entity?_cases c
    · rw [escapeHtml_cons_of_entity? hentity, unescapeHtml_append hentity, ih]
    · have hamp : c ≠ '&' := by
        rintro rfl
        exact hplain (by decide)
      rw [escapeHtml_cons_of_plain hplain, unescapeHtml_cons hamp, ih]

/-- What follows in a text without markup has none. -/
theorem ShowsNoMarkup.of_append {front text : Chars} (h : ShowsNoMarkup (front ++ text)) :
    ShowsNoMarkup text := by
  refine ⟨fun c hc => h.plain c (List.mem_append_right _ hc), fun before after htext => ?_⟩
  exact h.entity (front ++ before) after (by rw [htext, List.append_assoc])

/-- **What shows no markup was escaped**: unescaped and escaped again it is the same. -/
theorem escapeHtml_unescapeHtml {text : Chars} (h : ShowsNoMarkup text) :
    escapeHtml (unescapeHtml text) = text := by
  fun_induction unescapeHtml text with
  | case1 => rfl
  | case2 c rest d behind hread _ ih =>
    obtain ⟨entity, hentity, htext⟩ := readEntity?_eq_some_iff.mp hread
    rw [htext] at h ⊢
    rw [escapeHtml_cons_of_entity? hentity, ih h.of_append]
  | case3 c rest hnone ih =>
    have hplain : c ∉ htmlMarkup := by
      intro hmarkup
      obtain rfl := h.plain c List.mem_cons_self hmarkup
      -- the ampersand begins an entity, which would have been read
      obtain ⟨entity, hmem, behind, hbehind⟩ := h.entity [] rest rfl
      obtain ⟨d, hentity⟩ := exists_of_mem_htmlEntities hmem
      rw [readEntity?_eq_some_iff.mpr ⟨entity, hentity, hbehind.symm⟩] at hnone
      cases hnone
    rw [← List.singleton_append] at h
    rw [escapeHtml_cons_of_plain hplain, ih h.of_append]

/-- **What is escaped can be decoded and shows no markup**: there is no angle bracket and no quotation
mark in it, every ampersand begins an entity, and replacing the entities gives the text back. No two
texts are escaped alike, and every text of this kind is one that was escaped. -/
theorem escapeHtml_decodes (text : Chars) :
    (∀ c ∈ ['<', '>', '"', '\''], c ∉ escapeHtml text)
      ∧ (∀ before after, escapeHtml text = before ++ '&' :: after →
        ∃ entity ∈ htmlEntities, entity <+: '&' :: after)
      ∧ unescapeHtml (escapeHtml text) = text
      ∧ Function.Injective escapeHtml
      ∧ ∀ shown, ShowsNoMarkup shown → escapeHtml (unescapeHtml shown) = shown := by
  have hclean := showsNoMarkup_escapeHtml text
  exact ⟨hclean.not_mem, hclean.entity, unescapeHtml_escapeHtml text,
    Function.LeftInverse.injective unescapeHtml_escapeHtml, fun shown => escapeHtml_unescapeHtml⟩

end Mustache
