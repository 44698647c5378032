import Mustache.Fault

/-!
# Outcomes that agree

Two computations **agree** when both give an answer, and the answers are related, or both fail. It
does not matter with which fault: the two may work on different texts, so that the places they tell
of differ. Agreement is kept by doing one thing after the other (`Agree.bind`), so that two
programs of the same shape agree when their parts do. They **coincide** when the faults are the same
too.

Of one computation, `Ends` says what holds of its answer, and what of its fault.
-/

namespace Mustache

/-- **Both answer, or both fail.** -/
inductive Agree {α β : Type} (R : α → β → Prop) : Except Fault α → Except Fault β → Prop
  | ok {a : α} {b : β} (h : R a b) : Agree R (.ok a) (.ok b)
  | error (left right : Fault) : Agree R (.error left) (.error right)

namespace Agree

variable {α β γ δ : Type} {R : α → β → Prop} {S : γ → δ → Prop}

theorem bind {left : Except Fault α} {right : Except Fault β} {f : α → Except Fault γ}
    {g : β → Except Fault δ} (h : Agree R left right) (hnext : ∀ a b, R a b → Agree S (f a) (g b)) :
    Agree S (left >>= f) (right >>= g) := by
  cases h with
  | ok h => exact hnext _ _ h
  | error f g => exact .error f g

theorem bind_of_ok {left : Except Fault α} {right : Except Fault β} {f : α → Except Fault γ}
    {g : β → Except Fault δ} (h : Agree R left right)
    (hnext : ∀ a b, left = .ok a → right = .ok b → R a b → Agree S (f a) (g b)) :
    Agree S (left >>= f) (right >>= g) := by
  cases h with
  | ok h => exact hnext _ _ rfl rfl h
  | error f g => exact .error f g

theorem map {left : Except Fault α} {right : Except Fault β} {f : α → γ} {g : β → δ}
    (h : Agree R left right) (hnext : ∀ a b, R a b → S (f a) (g b)) :
    Agree S (left.map f) (right.map g) := by
  cases h with
  | ok h => exact .ok (hnext _ _ h)
  | error f g => exact .error f g

/-- Computations agree when what they answer, if anything, is related. -/
theorem of_toOption {left : Except Fault α} {right : Except Fault β}
    (h : Option.Rel R left.toOption right.toOption) : Agree R left right := by
  cases left with
  | error f =>
    cases right with
    | error g => exact .error f g
    | ok b => cases h
  | ok a =>
    cases right with
    | error g => cases h
    | ok b =>
      cases h with
      | some h => exact .ok h

theorem exists_right {a : α} {right : Except Fault β} (h : Agree R (.ok a) right) :
    ∃ b, right = .ok b ∧ R a b := by
  cases h with
  | ok h => exact ⟨_, rfl, h⟩

theorem error_right {fault : Fault} {right : Except Fault β} (h : Agree R (.error fault) right) :
    ∃ fault', right = .error fault' := by
  cases h with
  | error _ g => exact ⟨g, rfl⟩

/-- One answers if and only if the other does. -/
theorem isOk_iff {left : Except Fault α} {right : Except Fault β} (h : Agree R left right) :
    (∃ a, left = .ok a) ↔ ∃ b, right = .ok b := by
  cases h with
  | ok h => exact ⟨fun _ => ⟨_, rfl⟩, fun _ => ⟨_, rfl⟩⟩
  | error f g => exact ⟨nofun, nofun⟩

theorem of_ok {a : α} {b : β} (h : Agree R (.ok a) (.ok b)) : R a b := by
  cases h with
  | ok h => exact h

end Agree

/-- **Both answer, or both fail with the same fault.** -/
inductive Coincide {α β : Type} (R : α → β → Prop) : Except Fault α → Except Fault β → Prop
  | ok {a : α} {b : β} (h : R a b) : Coincide R (.ok a) (.ok b)
  | error (fault : Fault) : Coincide R (.error fault) (.error fault)

namespace Coincide

variable {α β γ δ : Type} {R : α → β → Prop} {S : γ → δ → Prop}

/-- A computation coincides with itself. -/
theorem refl (outcome : Except Fault α) : Coincide Eq outcome outcome := by
  cases outcome with
  | ok a => exact .ok rfl
  | error fault => exact .error fault

theorem bind {left : Except Fault α} {right : Except Fault β} {f : α → Except Fault γ}
    {g : β → Except Fault δ} (h : Coincide R left right)
    (hnext : ∀ a b, R a b → Coincide S (f a) (g b)) :
    Coincide S (left >>= f) (right >>= g) := by
  cases h with
  | ok h => exact hnext _ _ h
  | error fault => exact .error fault

end Coincide

/-- **The computation ends well or in an expected way**: with an answer of which `P` holds, or with
a fault of which `E` holds. -/
def Ends {α : Type} (P : α → Prop) (E : Fault → Prop) : Except Fault α → Prop
  | .ok a => P a
  | .error fault => E fault

namespace Ends

variable {α β : Type} {P : α → Prop} {Q : β → Prop} {E : Fault → Prop}

theorem bind {first : Except Fault α} {next : α → Except Fault β} (h : Ends P E first)
    (hnext : ∀ a, first = .ok a → P a → Ends Q E (next a)) : Ends Q E (first >>= next) := by
  cases first with
  | ok a => exact hnext a rfl h
  | error fault => exact h

/-- Whatever a computation ends with, it ends with that. -/
theorem self (outcome : Except Fault α) :
    Ends (fun a => outcome = .ok a) (fun fault => outcome = .error fault) outcome := by
  cases outcome <;> rfl

theorem imp {E' : Fault → Prop} {P' : α → Prop} {outcome : Except Fault α} (h : Ends P E outcome)
    (hP : ∀ a, P a → P' a) (hE : ∀ fault, E fault → E' fault) : Ends P' E' outcome := by
  cases outcome with
  | ok a => exact hP a h
  | error fault => exact hE fault h

end Ends

/-- Two computations with related answers, or none, each followed by another. -/
theorem rel_bind {α β γ δ : Type} {R : α → β → Prop} {S : γ → δ → Prop} {left : Option α}
    {right : Option β} {f : α → Option γ} {g : β → Option δ} (h : Option.Rel R left right)
    (hnext : ∀ a b, R a b → Option.Rel S (f a) (g b)) :
    Option.Rel S (left.bind f) (right.bind g) := by
  cases h with
  | some h => exact hnext _ _ h
  | none => exact .none

end Mustache
