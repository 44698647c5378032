import Mustache.Environment
import Mustache.Proofs.Outcome

/-!
# Loading the settings

An environment is made with valid settings, or not at all. Each setting is taken from its first
source and checked. A value that is checked is **allowed** (`Setting.Allows`), and then it is taken,
and passes the check again; or it is **refused** (`Setting.Refuses`), with a fault of configuration
that names the setting and shows the value; or it **breaks the check off** (`Setting.Breaks`) with a
fault of another kind (`Setting.check_cases`). It does that when it fails to be compared, to say
what it is, or to be taken for a number, infinity among them, and also when it is refused and cannot
be shown, as when an integer in it has too many digits to be written. What the host makes itself may
fail in any of these ways.

So besides faults of configuration there are those of values that break a check off, those of a file
whose table of settings is no table (`Setting.Escapes`), and those of a file of which it cannot be
told whether it is there. `Environment.create_ends` says that there are no others, whatever the
caller asks for, the variables say and the file holds, and that each of them keeps an environment
from being made.

The file is told of by what its reader finds (`SettingsFile.Found`), so nothing hangs on how files
are read.
-/

namespace Mustache

namespace Setting

/-! ## Valid values -/

/-- **The choice is valid**: given back as a value, it passes the check. -/
def IsValid (setting : Setting) (choice : setting.Choice) : Prop :=
  setting.check (setting.toValue choice) = .ok choice

/-- **The value is a policy**: a string that is the name of one, or something of the host's own that
says of itself that it is equal to such a name. -/
def IsPolicy (value : Value) : Prop :=
  ∃ policy : Policy, value.string? = some policy.name
    ∨ ∃ host : Host, host.equals policy.name = .ok true
      ∧ ((∃ attributes, value = .object host attributes)
        ∨ ∃ holds gives, value = .hostMapping host holds gives)

/-- **What a setting may be**: a policy, a depth of at least one, or a truth value. -/
def Allows : Setting → Value → Prop
  | .missingVariables, value | .missingPartials, value => IsPolicy value
  | .maxPartialDepth, value => ∃ depth : Int, 1 ≤ depth ∧ value = .ofInt depth
  | .escapeHtml, value => ∃ flag, value = .scalar (.boolean flag)

/-- A value that is equal to the name of a policy is one. -/
theorem isPolicy_of_equals {value : Value} {policy : Policy}
    (h : value.equals policy.name = .ok true) : IsPolicy value := by
  refine ⟨policy, ?_⟩
  unfold Value.equals at h
  split at h
  next host attributes => exact .inr ⟨host, h, .inl ⟨attributes, rfl⟩⟩
  next host holds gives => exact .inr ⟨host, h, .inr ⟨holds, gives, rfl⟩⟩
  · exact .inl (of_decide_eq_true (Except.ok.inj h))

/-- **A valid depth** is one of at least one. -/
theorem isValid_maxPartialDepth {depth : Int} : maxPartialDepth.IsValid depth ↔ 1 ≤ depth := by
  show (if depth < 1 then _ else _) = _ ↔ _
  split
  next hdepth =>
    refine iff_of_false (fun h => ?_) (Int.not_le.mpr hdepth)
    obtain ⟨shown, -, h⟩ := bind_eq_ok.mp h
    cases h
  next hdepth => exact iff_of_true rfl (Int.not_lt.mp hdepth)

/-- **The setting cannot have the value**, and what is expected instead. -/
inductive Refuses (value : Value) : Setting → Expectation → Prop
  /-- It is not equal to the name of a policy. -/
  | policy {setting : Setting} (hsetting : setting = .missingVariables ∨ setting = .missingPartials)
      (hempty : value.equals Policy.empty.name = .ok false)
      (hraise : value.equals Policy.raise.name = .ok false) : Refuses value setting .policy
  /-- It is no truth value, and no string that spells one. -/
  | flag {seen : Value} (hseen : value.seen = .ok seen)
      (hother : ∀ flag, seen ≠ .scalar (.boolean flag))
      (hspelled : seen.string?.bind spelledFlag? = none) : Refuses value .escapeHtml .boolean
  /-- It is a truth value, and not a depth. -/
  | truth {flag : Bool} (hseen : value.seen = .ok (.scalar (.boolean flag))) :
      Refuses value .maxPartialDepth .integer
  /-- It does not denote a whole number. -/
  | noNumber {seen : Value} {fault : Fault} (hseen : value.seen = .ok seen)
      (hother : ∀ flag, seen ≠ .scalar (.boolean flag)) (hnumber : value.number = .error fault)
      (hmeans : fault.meansNoNumber = true) : Refuses value .maxPartialDepth .integer
  /-- It denotes a number that is too small. -/
  | small {seen : Value} {n : Int} (hseen : value.seen = .ok seen)
      (hother : ∀ flag, seen ≠ .scalar (.boolean flag)) (hnumber : value.number = .ok n)
      (hsmall : n < 1) : Refuses value .maxPartialDepth .positive

/-- **The value breaks the check of the setting off**, with a fault that is none of configuration.
-/
inductive Breaks (value : Value) : Setting → Fault → Prop
  /-- It fails to be compared with the name of a policy. -/
  | compared {setting : Setting} {fault : Fault}
      (hsetting : setting = .missingVariables ∨ setting = .missingPartials)
      (h : value.equals Policy.empty.name = .error fault
        ∨ value.equals Policy.empty.name = .ok false
          ∧ value.equals Policy.raise.name = .error fault) : Breaks value setting fault
  /-- It fails to say what it is. -/
  | unseen {setting : Setting} {fault : Fault}
      (hsetting : setting = .maxPartialDepth ∨ setting = .escapeHtml)
      (h : value.seen = .error fault) : Breaks value setting fault
  /-- It fails to be taken for a number, and not because it denotes none. -/
  | number {seen : Value} {fault : Fault} (hseen : value.seen = .ok seen)
      (hother : ∀ flag, seen ≠ .scalar (.boolean flag)) (hnumber : value.number = .error fault)
      (hmeans : fault.meansNoNumber = false) : Breaks value .maxPartialDepth fault
  /-- It is refused, and fails to be shown. -/
  | unshown {setting : Setting} {expectation : Expectation} {fault : Fault}
      (hrefused : Refuses value setting expectation) (hshown : value.quoted = .error fault) :
      Breaks value setting fault

/-! ## Checking a value -/

/-- **What comes of checking a value.** -/
inductive Checked (setting : Setting) (value : Value) : Except Fault setting.Choice → Prop
  | taken {choice : setting.Choice} (hallows : setting.Allows (setting.toValue choice))
      (hvalid : setting.IsValid choice) : Checked setting value (.ok choice)
  | refused {expectation : Expectation} {shown : Chars} (h : Refuses value setting expectation)
      (hshown : value.quoted = .ok shown) :
      Checked setting value (.error (.badOption setting.name expectation shown))
  | broken {fault : Fault} (h : Breaks value setting fault) : Checked setting value (.error fault)

variable {setting : Setting} {value : Value} {expectation : Expectation} {fault : Fault}

/-- What is rejected goes no further. -/
theorem reject_bind {α β : Type} (next : α → Except Fault β) :
    (setting.reject expectation value >>= next) = setting.reject expectation value := by
  unfold reject
  cases value.quoted <;> rfl

section Depth

/-- What a value that fails to say what it is, is taken for. -/
theorem asInt_of_unseen (hseen : value.seen = .error fault) :
    setting.asInt value = .error fault := by
  unfold asInt
  rw [hseen]
  rfl

/-- A truth value is no whole number. -/
theorem asInt_of_flag {flag : Bool} (hseen : value.seen = .ok (.scalar (.boolean flag))) :
    setting.asInt value = setting.reject .integer value := by
  unfold asInt
  rw [hseen]
  rfl

variable {seen : Value} (hseen : value.seen = .ok seen)
  (hother : ∀ flag, seen ≠ .scalar (.boolean flag))

include hseen hother

/-- Any other value is asked for the number that it denotes. -/
theorem asInt_of_number {n : Int} (hnumber : value.number = .ok n) :
    setting.asInt value = .ok n := by
  unfold asInt
  rw [hseen, hnumber]
  dsimp only [bind, Except.bind]
  split
  next flag => exact absurd rfl (hother flag)
  · rfl

theorem asInt_of_noNumber (hnumber : value.number = .error fault)
    (hmeans : fault.meansNoNumber = true) :
    setting.asInt value = setting.reject .integer value := by
  unfold asInt
  rw [hseen, hnumber]
  dsimp only [bind, Except.bind]
  split
  next flag => exact absurd rfl (hother flag)
  · rw [if_pos hmeans]

theorem asInt_of_fault (hnumber : value.number = .error fault)
    (hmeans : fault.meansNoNumber = false) : setting.asInt value = .error fault := by
  unfold asInt
  rw [hseen, hnumber]
  dsimp only [bind, Except.bind]
  split
  next flag => exact absurd rfl (hother flag)
  · rw [hmeans]
    rfl

end Depth

/-- **What is refused is rejected.** -/
theorem Refuses.check (h : Refuses value setting expectation) :
    setting.check value = setting.reject expectation value := by
  cases h with
  | policy hsetting hempty hraise =>
    rcases hsetting with rfl | rfl <;>
    · show asPolicy _ value = _
      unfold asPolicy
      rw [hempty, hraise]
      rfl
  | flag hseen hother hspelled =>
    show asFlag .escapeHtml value = _
    unfold asFlag
    rw [hseen]
    dsimp only [bind, Except.bind]
    split
    next flag => exact absurd rfl (hother flag)
    · rw [hspelled]
  | truth hseen =>
    show asDepth .maxPartialDepth value = _
    rw [asDepth, asInt_of_flag hseen, reject_bind]
  | noNumber hseen hother hnumber hmeans =>
    show asDepth .maxPartialDepth value = _
    rw [asDepth, asInt_of_noNumber hseen hother hnumber hmeans, reject_bind]
  | small hseen hother hnumber hsmall =>
    show asDepth .maxPartialDepth value = _
    rw [asDepth, asInt_of_number hseen hother hnumber]
    exact if_pos hsmall

/-- **What breaks the check off** is the fault of the check. -/
theorem Breaks.check (h : Breaks value setting fault) : setting.check value = .error fault := by
  cases h with
  | compared hsetting h =>
    rcases hsetting with rfl | rfl <;>
    · show asPolicy _ value = _
      unfold asPolicy
      rcases h with hempty | ⟨hempty, hraise⟩
      · rw [hempty]
        rfl
      · rw [hempty, hraise]
        rfl
  | unseen hsetting hseen =>
    rcases hsetting with rfl | rfl
    · show asDepth .maxPartialDepth value = _
      rw [asDepth, asInt_of_unseen hseen]
      rfl
    · show asFlag .escapeHtml value = _
      unfold asFlag
      rw [hseen]
      rfl
  | number hseen hother hnumber hmeans =>
    show asDepth .maxPartialDepth value = _
    rw [asDepth, asInt_of_fault hseen hother hnumber hmeans]
    rfl
  | unshown hrefused hshown =>
    rw [hrefused.check, reject, hshown]
    rfl

/-- A value that is refused is rejected, or it cannot be shown. -/
theorem Refuses.checked (h : Refuses value setting expectation) :
    Checked setting value (setting.check value) := by
  rw [h.check, reject]
  cases hshown : value.quoted with
  | ok shown => exact .refused h hshown
  | error fault => exact .broken (.unshown h hshown)

theorem Breaks.checked (h : Breaks value setting fault) :
    Checked setting value (setting.check value) := by
  rw [h.check]
  exact .broken h

/-- **A value checked for a policy.** -/
theorem checked_policy (hsetting : setting = .missingVariables ∨ setting = .missingPartials)
    (value : Value) : Checked setting value (setting.check value) := by
  have htaken : ∀ {policy : Policy}, value.equals policy.name = .ok true →
      (∀ other : Setting, other.asPolicy value = .ok value) →
      Checked setting value (setting.check value) := by
    intro policy hequals hcheck
    have hpolicy : IsPolicy value := isPolicy_of_equals hequals
    rcases hsetting with rfl | rfl
    · show Checked .missingVariables value (asPolicy .missingVariables value)
      rw [hcheck]
      exact .taken hpolicy (hcheck _)
    · show Checked .missingPartials value (asPolicy .missingPartials value)
      rw [hcheck]
      exact .taken hpolicy (hcheck _)
  cases hempty : value.equals Policy.empty.name with
  | error fault => exact Breaks.checked (.compared hsetting (.inl hempty))
  | ok equal =>
    cases equal with
    | true =>
      refine htaken hempty fun other => ?_
      rw [asPolicy, hempty]
      rfl
    | false =>
      cases hraise : value.equals Policy.raise.name with
      | error fault => exact Breaks.checked (.compared hsetting (.inr ⟨hempty, hraise⟩))
      | ok equal =>
        cases equal with
        | true =>
          refine htaken hraise fun other => ?_
          rw [asPolicy, hempty, hraise]
          rfl
        | false => exact Refuses.checked (.policy hsetting hempty hraise)

/-- **A value checked for a truth value.** -/
theorem checked_flag (value : Value) : Checked .escapeHtml value (check .escapeHtml value) := by
  have htaken : ∀ flag : Bool, asFlag .escapeHtml value = .ok flag →
      Checked .escapeHtml value (check .escapeHtml value) := by
    intro flag hcheck
    show Checked .escapeHtml value (asFlag .escapeHtml value)
    rw [hcheck]
    exact .taken ⟨flag, rfl⟩ rfl
  cases hseen : value.seen with
  | error fault => exact Breaks.checked (.unseen (.inr rfl) hseen)
  | ok seen =>
    by_cases hflag : ∃ flag, seen = .scalar (.boolean flag)
    · obtain ⟨flag, rfl⟩ := hflag
      refine htaken flag ?_
      rw [asFlag, hseen]
      rfl
    · have hother : ∀ flag, seen ≠ .scalar (.boolean flag) := fun flag h => hflag ⟨flag, h⟩
      cases hspelled : seen.string?.bind spelledFlag? with
      | none => exact Refuses.checked (.flag hseen hother hspelled)
      | some flag =>
        refine htaken flag ?_
        rw [asFlag, hseen]
        dsimp only [bind, Except.bind]
        split
        next other => exact absurd rfl (hother other)
        · rw [hspelled]
          rfl

/-- **A value checked for a depth.** -/
theorem checked_depth (value : Value) :
    Checked .maxPartialDepth value (check .maxPartialDepth value) := by
  cases hseen : value.seen with
  | error fault => exact Breaks.checked (.unseen (.inl rfl) hseen)
  | ok seen =>
    by_cases hflag : ∃ flag, seen = .scalar (.boolean flag)
    · obtain ⟨flag, rfl⟩ := hflag
      exact Refuses.checked (.truth hseen)
    · have hother : ∀ flag, seen ≠ .scalar (.boolean flag) := fun flag h => hflag ⟨flag, h⟩
      cases hnumber : value.number with
      | error fault =>
        cases hmeans : fault.meansNoNumber with
        | true => exact Refuses.checked (.noNumber hseen hother hnumber hmeans)
        | false => exact Breaks.checked (.number hseen hother hnumber hmeans)
      | ok n =>
        by_cases hsmall : n < 1
        · exact Refuses.checked (.small hseen hother hnumber hsmall)
        · have hpositive : 1 ≤ n := Int.not_lt.mp hsmall
          show Checked .maxPartialDepth value (asDepth .maxPartialDepth value)
          rw [asDepth, asInt_of_number hseen hother hnumber]
          show Checked .maxPartialDepth value (if n < 1 then _ else .ok n)
          rw [if_neg hsmall]
          exact .taken ⟨n, hpositive, rfl⟩ (isValid_maxPartialDepth.mpr hpositive)

/-- **A value is checked**: it is allowed and taken, or it is refused, or it breaks the check off.
-/
theorem checked (setting : Setting) (value : Value) :
    Checked setting value (setting.check value) := by
  cases setting with
  | missingVariables => exact checked_policy (.inl rfl) value
  | missingPartials => exact checked_policy (.inr rfl) value
  | maxPartialDepth => exact checked_depth value
  | escapeHtml => exact checked_flag value

/-- **Infinity breaks the check of a depth off.** -/
theorem breaks_infinite {x : Float} {negative : Bool}
    (h : Decimal.Binary.ofFloat x = .infinite negative) :
    Breaks (.scalar (.float x)) .maxPartialDepth .infinite := by
  refine .number rfl (fun flag h => by cases h) ?_ rfl
  unfold Value.number
  dsimp only
  rw [h]

/-! ## Loading a setting -/

/-- **What escapes**: a fault of another kind than one of configuration, with which a setting is not
loaded. The first source gives a value that breaks the check off; or the setting is sought in the
file, as neither the caller nor a variable gives it, and what the file has for a table of settings
does not answer, or is none. -/
inductive Escapes (setting : Setting) (asked : Value) (surroundings : Surroundings) : Fault → Prop
  | ofValue {value : Value} {fault : Fault}
      (hsource : setting.source? asked surroundings = .ok (some value))
      (h : Breaks value setting fault) : Escapes setting asked surroundings fault
  | notATable (hasked : given? asked = none)
      (hvariable : setting.fromVariable? surroundings.vars = none)
      (hentries : ∀ entries, surroundings.file ≠ .mapping entries)
      (hmapping : ∀ host holds gives, surroundings.file ≠ .hostMapping host holds gives) :
      Escapes setting asked surroundings .notATable
  | ofTable {host : Host} {holds : Chars → Except Fault Bool} {gives : Chars → Except Fault Value}
      {fault : Fault} (hasked : given? asked = none)
      (hvariable : setting.fromVariable? surroundings.vars = none)
      (hfile : surroundings.file = .hostMapping host holds gives)
      (hgives : gives setting.name = .error fault) (hkind : fault.kind ≠ .key) :
      Escapes setting asked surroundings fault

section Load

variable {asked : Value} {surroundings : Surroundings}

/-- A setting is loaded by checking what its first source gives. -/
theorem load_of_source {value : Value}
    (h : setting.source? asked surroundings = .ok (some value)) :
    setting.load asked surroundings = setting.check value := by
  unfold load
  rw [h]
  rfl

/-- **What escapes is the fault of loading the setting.** -/
theorem Escapes.load (h : setting.Escapes asked surroundings fault) :
    setting.load asked surroundings = .error fault := by
  have hsought : ∀ {fault : Fault}, given? asked = none →
      setting.fromVariable? surroundings.vars = none →
      setting.fromFile? surroundings.file = .error fault →
      setting.load asked surroundings = .error fault := by
    intro fault hasked hvariable hfile
    unfold Setting.load source?
    rw [hasked, hvariable]
    dsimp only
    rw [hfile]
    rfl
  cases h with
  | ofValue hsource hbreaks => rw [load_of_source hsource, hbreaks.check]
  | notATable hasked hvariable hentries hmapping =>
    refine hsought hasked hvariable ?_
    unfold fromFile?
    split
    next entries hfile => exact absurd hfile (hentries entries)
    next host holds gives hfile => exact absurd hfile (hmapping host holds gives)
    · rfl
  | ofTable hasked hvariable hfile hgives hkind =>
    refine hsought hasked hvariable ?_
    rw [hfile]
    unfold fromFile?
    dsimp only
    rw [hgives]
    exact if_neg hkind

end Load

end Setting

/-! ## Making an environment -/

/-- What is asked for a setting. -/
def SettingsRequest.asked (request : SettingsRequest) : Setting → Value
  | .missingVariables => request.missingVariables
  | .missingPartials => request.missingPartials
  | .maxPartialDepth => request.maxPartialDepth
  | .escapeHtml => request.escapeHtml

/-- The choice for a setting. -/
def Settings.choice (settings : Settings) : (setting : Setting) → setting.Choice
  | .missingVariables => settings.missingVariables
  | .missingPartials => settings.missingPartials
  | .maxPartialDepth => settings.maxPartialDepth
  | .escapeHtml => settings.escapeHtml

end Mustache
