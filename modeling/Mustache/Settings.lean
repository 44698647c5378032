import Mustache.Decimal.Integer
import Mustache.Render
import Mustache.Store

/-!
# Settings

Four settings decide how templates are rendered. Each is taken from the first source that gives it:
what the caller asks for, a variable of the surroundings that is not empty, the settings file, and
at last a default. Whatever the source, the value must be one the setting can have; what lower
sources say does not matter then, even if it is invalid.

**What counts as a value.** A policy is whatever is equal to the string `empty` or `raise`, and is
taken as it is. A truth value is one, or a string that spells one. A depth is whatever denotes a
whole number of at least one: an integer, a string or octets that spell one, a floating-point
number, cut toward zero, or what the host takes for a number; but never a truth value. What the host
makes itself may fail when it is compared, taken for a number, asked for its class, or shown in a
fault, and then the choice of the setting fails with that.
-/

namespace Mustache

/-- **The settings.** -/
inductive Setting where
  /-- What to do about a name that is missing. -/
  | missingVariables
  /-- What to do about a partial that is missing. -/
  | missingPartials
  /-- How many expansions of partials may be open at once. -/
  | maxPartialDepth
  /-- Whether the values printed are escaped. -/
  | escapeHtml
deriving DecidableEq, Repr, Inhabited

/-! ## What a value is taken for -/

namespace Value

/-- **The value is equal to a text.** A string is when it has the same characters; what the host
makes itself says so as it likes. -/
def equals (text : Chars) : Value → Except Fault Bool
  | .object host _ | .hostMapping host .. => host.equals text
  | value => .ok (value.string? = some text)

/-- **What a value is seen as** when its type is asked for: what it passes for. An object that
cannot find its class is seen as itself. -/
def seen (value : Value) : Except Fault Value :=
  match value.guise with
  | .ok passed => .ok passed
  | .error fault => if fault.kind = .attribute then .ok value else .error fault

/-- The whole number that a text spells. -/
def spelledInt (text : Chars) : Except Fault Int :=
  match Decimal.readInt? text with
  | some n => .ok n
  | none => .error (.notAnInteger text)

/-- **The whole number that a value denotes.** Octets spell one in ASCII. -/
def number : Value → Except Fault Int
  | .scalar (.boolean flag) => .ok (if flag then 1 else 0)
  | .scalar (.integer n) => .ok n
  | .scalar (.float x) =>
    match Decimal.Binary.ofFloat x with
    | .finite negative significand exponent =>
      .ok (Decimal.Binary.truncate negative significand exponent)
    | .infinite _ => .error .infinite
    | .notANumber => .error .undefinedNumber
  | .scalar (.string text) | .scalar (.safe text) => spelledInt text
  | .octets bytes _ =>
    if bytes.all (· < 128) then spelledInt (bytes.map fun byte => Char.ofNat byte.toNat)
    else .error (.notAnInteger (Text.quotedOctets bytes))
  | .object host _ | .hostMapping host .. => host.number
  | value => .error (.notANumber value.typeName)

end Value

/-- The policy that a choice of one stands for: to fail, if it is equal to the name of that. -/
def Policy.of (choice : Value) : Policy :=
  if choice.equals Policy.raise.name = .ok true then .raise else .empty

/-! ## Settings and their sources -/

/-- **What surrounds the program**: its variables, and the settings table of the file. -/
structure Surroundings where
  vars : Table
  file : Value

namespace Setting

/-- All settings. -/
def all : List Setting := [.missingVariables, .missingPartials, .maxPartialDepth, .escapeHtml]

/-- The name of a setting. -/
def name : Setting → Chars
  | .missingVariables => "missing_variables".toList
  | .missingPartials => "missing_partials".toList
  | .maxPartialDepth => "max_partial_depth".toList
  | .escapeHtml => "escape_html".toList

/-- The setting of a name. -/
def ofName? (name : Chars) : Option Setting := all.find? (·.name = name)

/-- The variable that gives a setting. -/
def variableName : Setting → Chars
  | .missingVariables => "STACHE_MISSING_VARIABLES".toList
  | .missingPartials => "STACHE_MISSING_PARTIALS".toList
  | .maxPartialDepth => "STACHE_MAX_PARTIAL_DEPTH".toList
  | .escapeHtml => "STACHE_ESCAPE_HTML".toList

/-- **What a choice for a setting is.** A policy stays the value that it was given as. -/
abbrev Choice : Setting → Type
  | .missingVariables | .missingPartials => Value
  | .maxPartialDepth => Int
  | .escapeHtml => Bool

/-- A choice in the form in which a caller asks for it. -/
def toValue : (setting : Setting) → setting.Choice → Value
  | .missingVariables, (policy : Value) => policy
  | .missingPartials, (policy : Value) => policy
  | .maxPartialDepth, (depth : Int) => .ofInt depth
  | .escapeHtml, (flag : Bool) => .scalar (.boolean flag)

/-- **The choice for a setting that nothing gives.** -/
def default : (setting : Setting) → setting.Choice
  | .missingVariables => Value.ofChars Policy.empty.name
  | .missingPartials => Value.ofChars Policy.empty.name
  | .maxPartialDepth => (100 : Int)
  | .escapeHtml => true

/-! ## Valid values -/

/-- The fault of a value that the setting cannot have. It shows the value, and comes to another
fault when that cannot be written. -/
def reject {α : Type} (setting : Setting) (expectation : Expectation) (value : Value) :
    Except Fault α := do
  let shown ← value.quoted
  throw (.badOption setting.name expectation shown)

/-- **A policy**: the value itself, if it is equal to the name of one. -/
def asPolicy (setting : Setting) (value : Value) : Except Fault Value := do
  if ← value.equals Policy.empty.name then return value
  else if ← value.equals Policy.raise.name then return value
  else setting.reject .policy value

/-- The truth value that a text spells, in upper or lower case. -/
def spelledFlag? (text : Chars) : Option Bool :=
  let lower := text.map Char.toLower
  if ["1".toList, "true".toList, "t".toList].contains lower then some true
  else if ["0".toList, "false".toList, "f".toList].contains lower then some false
  else none

/-- **A truth value.** -/
def asFlag (setting : Setting) (value : Value) : Except Fault Bool := do
  match ← value.seen with
  | .scalar (.boolean flag) => return flag
  | seen =>
    match seen.string?.bind spelledFlag? with
    | some flag => return flag
    | none => setting.reject .boolean value

/-- **A whole number**, unless the value is a truth value. Only a fault that says that the value is
no number rejects it; any other goes on to the caller. -/
def asInt (setting : Setting) (value : Value) : Except Fault Int := do
  match ← value.seen with
  | .scalar (.boolean _) => setting.reject .integer value
  | _ =>
    match value.number with
    | .ok n => return n
    | .error fault => if fault.meansNoNumber then setting.reject .integer value else throw fault

/-- **A depth**: a whole number of at least one. -/
def asDepth (setting : Setting) (value : Value) : Except Fault Int := do
  let depth ← setting.asInt value
  if depth < 1 then setting.reject .positive value else return depth

/-- **A value checked for a setting.** -/
def check : (setting : Setting) → Value → Except Fault setting.Choice
  | .missingVariables, value => asPolicy .missingVariables value
  | .missingPartials, value => asPolicy .missingPartials value
  | .maxPartialDepth, value => asDepth .maxPartialDepth value
  | .escapeHtml, value => asFlag .escapeHtml value

/-! ## Sources -/

/-- The value, unless it is nothing. -/
def given? : Value → Option Value
  | .scalar .null => none
  | value => some value

/-- The value of a variable; an empty one counts as not there. -/
def fromVariable? (setting : Setting) (vars : Table) : Option Value :=
  match vars.text? setting.variableName with
  | none => none
  | some text => if text = [] then none else some (.ofChars text)

/-- The value in the settings table of the file. Looking into what is no table is a fault. -/
def fromFile? (setting : Setting) : Value → Except Fault (Option Value)
  | .mapping entries => .ok ((Value.entry? setting.name entries).bind given?)
  | .hostMapping _ _ gives =>
    match gives setting.name with
    | .ok value => .ok (given? value)
    | .error fault => if fault.kind = .key then .ok none else .error fault
  | _ => .error .notATable

/-- **The value that the first source gives**, in order of precedence; none if no source does. -/
def source? (setting : Setting) (asked : Value) (surroundings : Surroundings) :
    Except Fault (Option Value) :=
  match given? asked with
  | some value => .ok (some value)
  | none =>
    match setting.fromVariable? surroundings.vars with
    | some value => .ok (some value)
    | none => setting.fromFile? surroundings.file

/-- **The choice for a setting**: the value of the first source that gives one, checked, or the
default. -/
def load (setting : Setting) (asked : Value) (surroundings : Surroundings) :
    Except Fault setting.Choice := do
  match ← setting.source? asked surroundings with
  | some value => setting.check value
  | none => return setting.default

end Setting

/-- **What a caller asks for**, a value for each setting; nothing leaves it to the other sources. -/
structure SettingsRequest where
  missingVariables : Value
  missingPartials : Value
  maxPartialDepth : Value
  escapeHtml : Value

/-- **All four settings.** -/
structure Settings where
  missingVariables : Value
  missingPartials : Value
  maxPartialDepth : Int
  escapeHtml : Bool
deriving Inhabited

namespace Settings

/-- **The settings for a request**, each from its first source. The first fault ends it. -/
def load (request : SettingsRequest) (surroundings : Surroundings) : Except Fault Settings := do
  let missingVariables ← Setting.missingVariables.load request.missingVariables surroundings
  let missingPartials ← Setting.missingPartials.load request.missingPartials surroundings
  let maxPartialDepth ← Setting.maxPartialDepth.load request.maxPartialDepth surroundings
  let escapeHtml ← Setting.escapeHtml.load request.escapeHtml surroundings
  return ⟨missingVariables, missingPartials, maxPartialDepth, escapeHtml⟩

/-- The settings when nothing asks for anything else. -/
def standard : Settings where
  missingVariables := Setting.missingVariables.default
  missingPartials := Setting.missingPartials.default
  maxPartialDepth := Setting.maxPartialDepth.default
  escapeHtml := Setting.escapeHtml.default

end Settings

end Mustache
