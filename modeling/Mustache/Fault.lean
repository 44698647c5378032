import Mustache.Decimal.Integer
import Mustache.DepthLimit
import Mustache.Position
import Mustache.Text.Quoted

/-!
# Faults

Everything that can end an operation with an error is a `Fault`, named for its cause. `Fault.kind`
sorts the causes into the kinds a caller tells apart, and `Fault.message` gives each its wording:
the one place where messages are composed.

A fault may also come from the host: an attribute of a host object or a host's own store of
partials may fail, and its failure travels through rendering unchanged. Three of those kinds say
no more than that a member does not exist (`Fault.meansAbsent`).
-/

namespace Mustache

/-- **The kinds of faults** a caller can tell apart. -/
inductive FaultKind where
  /-- A template that cannot be cut into tags. -/
  | lex
  /-- Blocks that are not closed or not opened. -/
  | parse
  /-- Any other fault in the text of a template. -/
  | template
  /-- A name that nothing in scope answers to. -/
  | resolution
  /-- A partial that no store holds. -/
  | partialNotFound
  /-- Partials nested deeper than the limit. -/
  | partialDepth
  /-- An option without a valid value. -/
  | config
  | attribute
  | key
  | index
  | value
  | type
  | overflow
  /-- The files cannot be asked. -/
  | system
  /-- Calls nested deeper than the stack allows. -/
  | recursion
  /-- A broken promise of the program itself. -/
  | internal
deriving DecidableEq, Repr, Inhabited

/-- **Where a fault stands**: line and column, as far as they are known. -/
structure Place where
  line : Option Int
  column : Option Int
deriving DecidableEq, Repr, Inhabited

namespace Place

/-- No place is known. -/
def nowhere : Place := ⟨none, none⟩

/-- The place of a known position. -/
def ofPosition (position : Position) : Place := ⟨some position.line, some position.column⟩

end Place

/-- **What is wrong with the text of a template.** -/
inductive SyntaxCause where
  /-- The text at `offset` does not match the pattern, given by its written form. -/
  | unmatched (offset : Int) (pattern : Chars)
  /-- A block is still open at the end. -/
  | unclosed (name : Chars)
  /-- A closing tag, and no block is open. -/
  | unexpectedClose (name : Chars)
  /-- A closing tag that names another block than the innermost open one. -/
  | mismatchedClose (expected found : Chars)
  /-- A fault of nesting in the words of whoever reports it. -/
  | nesting (message : Chars) (expected found : Option Chars)
  /-- Any other fault in the words of whoever reports it. -/
  | other (message : Chars)
deriving DecidableEq, Repr

namespace SyntaxCause

/-- The kind of fault that the cause makes. -/
def kind : SyntaxCause → FaultKind
  | .unmatched .. => .lex
  | .other _ => .template
  | _ => .parse

/-- The name of the block that should have been closed. -/
def expected? : SyntaxCause → Option Chars
  | .unclosed name => some name
  | .mismatchedClose expected _ => some expected
  | .nesting _ expected _ => expected
  | _ => none

/-- The name found in the closing tag. -/
def found? : SyntaxCause → Option Chars
  | .unexpectedClose name => some name
  | .mismatchedClose _ found => some found
  | .nesting _ _ found => found
  | _ => none

/-- The wording of the cause, without the place. -/
def message : SyntaxCause → Chars
  | .unmatched offset pattern =>
    "Pattern ".toList ++ Text.quoted pattern ++ " failed at offset ".toList ++ Chars.ofInt offset
  | .unclosed name => "Unclosed section ".toList ++ Text.quoted name
  | .unexpectedClose name => "Unexpected closing tag ".toList ++ Text.quoted name
  | .mismatchedClose expected found => expected ++ " doesn't match ".toList ++ found
  | .nesting message _ _ => message
  | .other message => message

end SyntaxCause

/-- The place as it is appended to a message: nothing without a line, and the column only after
the line. -/
def Place.suffixText : Place → Chars
  | ⟨none, _⟩ => []
  | ⟨some line, none⟩ => " at line ".toList ++ Chars.ofInt line
  | ⟨some line, some column⟩ =>
    " at line ".toList ++ Chars.ofInt line ++ ", column ".toList ++ Chars.ofInt column

/-- **What an option should have been.** -/
inductive Expectation where
  /-- The name of a policy for what is missing. -/
  | policy
  | boolean
  | integer
  | positive
deriving DecidableEq, Repr

/-- The wording of an expectation. -/
def Expectation.message : Expectation → Chars
  | .policy => "to be one of ('empty', 'raise')".toList
  | .boolean => "to be a boolean".toList
  | .integer => "to be an integer".toList
  | .positive => "to be positive".toList

/-- **A fault**, named for its cause. -/
inductive Fault where
  /-- A template, or a partial, that cannot be read. -/
  | malformed (cause : SyntaxCause) (place : Place)
  /-- No scope answers to the name. -/
  | unresolved (name : Chars)
  /-- No store holds the partial. -/
  | partialNotFound (name : Chars)
  /-- Expanding the partial would open more expansions than the limit allows. -/
  | tooDeep (name : Chars) (limit : DepthLimit)
  /-- An option has a value it cannot have, shown by its quoted form. -/
  | badOption (option : Chars) (expectation : Expectation) (got : Chars)
  /-- The file of options cannot be read as one. -/
  | badFile (path : Chars)
  /-- An integer to be shown has more digits than one may be written with. -/
  | tooManyDigits
  /-- The value has no such member. -/
  | noMember (name : Chars)
  /-- The registry holds no such partial. -/
  | notRegistered (name : Chars)
  /-- There is no such option. -/
  | unknownOption (name : Chars)
  /-- A value of this type was given where a store of partials belongs. -/
  | notAStore (typeName : Chars)
  /-- A tag whose sigil is that of no kind of tag. -/
  | unknownSigil (sigil : Chars)
  /-- A cursor was asked to move back. -/
  | backwards (position : Nat) (offset : Int)
  /-- There is no token of this index. -/
  | noToken
  /-- There is no character of this index. -/
  | noCharacter
  /-- An option was looked up in a value that is not a table. -/
  | notATable
  /-- Infinity was given where an integer belongs. -/
  | infinite
  /-- What is not a number was given as a floating-point number where an integer belongs. -/
  | undefinedNumber
  /-- A value of this type was given where a number belongs. -/
  | notANumber (typeName : Chars)
  /-- The size of a sequence was asked for, and is beyond all sizes. -/
  | tooLong
  /-- The stack has no room for another call. -/
  | stackUsedUp
  /-- A value of this type was given as a key. -/
  | notAKey (typeName : Chars)
  /-- The text denotes no floating-point number. -/
  | notAFloat (text : Chars)
  /-- The text denotes no integer. -/
  | notAnInteger (text : Chars)
  /-- A progression would never move on. -/
  | zeroStep
  /-- A number was given for an octet that is none. -/
  | notAnOctet
  /-- A failure of the host, of the given kind and wording. -/
  | host (kind : FaultKind) (message : Chars)
  /-- The tokens of a template do not make up its text. -/
  | torn
deriving DecidableEq, Repr

namespace Fault

/-- The kind of a fault. -/
def kind : Fault → FaultKind
  | .malformed cause _ => cause.kind
  | .unresolved _ => .resolution
  | .partialNotFound _ => .partialNotFound
  | .tooDeep .. => .partialDepth
  | .badOption .. | .badFile _ => .config
  | .noMember _ | .notRegistered _ | .unknownOption _ => .key
  | .notAStore _ | .notAKey _ | .notANumber _ => .type
  | .unknownSigil _ | .backwards .. | .notAFloat _ | .notAnInteger _ | .undefinedNumber | .zeroStep
  | .notAnOctet | .tooManyDigits => .value
  | .noToken | .noCharacter => .index
  | .notATable => .attribute
  | .infinite | .tooLong => .overflow
  | .stackUsedUp => .recursion
  | .host kind _ => kind
  | .torn => .internal

/-- How much of the quoted form of a text that is no integer is shown. -/
def shownLength : Nat := 200

/-- **The wording of a fault.** -/
def message : Fault → Chars
  | .malformed cause place => cause.message ++ place.suffixText
  | .unresolved name => "Cannot resolve name: ".toList ++ Text.quoted name
  | .partialNotFound name => "Partial not found: ".toList ++ Text.quoted name
  | .tooDeep name limit =>
    "Maximum partial depth of ".toList ++ limit.quoted
      ++ " exceeded while expanding ".toList ++ Text.quoted name
  | .badOption option expectation got =>
    "Expected ".toList ++ option ++ ' ' :: expectation.message ++ ", got ".toList ++ got
  | .badFile path => "Invalid config file: ".toList ++ path
  | .tooManyDigits =>
    "Exceeds the limit (".toList ++ Chars.ofNat Decimal.digitLimit
      ++ " digits) for integer string conversion; use ".toList
      ++ "sys.set_int_max_str_digits() to increase the limit".toList
  | .noMember name => name
  | .notRegistered name => "Partial not found: ".toList ++ name
  | .unknownOption name => name
  | .notAStore typeName => "Expected a mapping or a partial store, got ".toList ++ typeName
  | .unknownSigil sigil => Text.quoted sigil ++ " is not a valid TagKind".toList
  | .backwards position offset =>
    "Cannot move back from offset ".toList ++ Chars.ofNat position ++ " to ".toList
      ++ Chars.ofInt offset
  | .noToken => "list index out of range".toList
  | .noCharacter => "string index out of range".toList
  | .notATable => []
  | .infinite => []
  | .undefinedNumber => "cannot convert float NaN to integer".toList
  | .notANumber typeName =>
    "int() argument must be a string, a bytes-like object or a real number, not '".toList
      ++ typeName ++ ['\'']
  | .tooLong => []
  | .stackUsedUp => "maximum recursion depth exceeded".toList
  | .notAKey typeName => "unhashable type: '".toList ++ typeName ++ ['\'']
  | .notAFloat text => "could not convert string to float: ".toList ++ Text.quoted text
  | .notAnInteger text =>
    "invalid literal for int() with base 10: ".toList ++ (Text.quoted text).take shownLength
  | .zeroStep => "range() arg 3 must not be zero".toList
  | .notAnOctet => "bytes must be in range(0, 256)".toList
  | .host _ message => message
  | .torn => []

/-- **The fault says only that a member does not exist.** Reading a member of a host object that
fails so counts as the member being absent; any other failure goes on to the caller. -/
def meansAbsent (fault : Fault) : Bool :=
  match fault.kind with
  | .attribute | .key | .index => true
  | _ => false

/-- **The fault says only that a value is no number**: it is of the wrong type, or has no value that
would be one. A fault of configuration is one of value. -/
def meansNoNumber (fault : Fault) : Bool :=
  match fault.kind with
  | .type | .value | .config => true
  | _ => false

end Fault

/-- Outcomes can be compared. -/
instance {α : Type} [DecidableEq α] : DecidableEq (Except Fault α)
  | .ok a, .ok b => if h : a = b then isTrue (h ▸ rfl) else isFalse fun e => h (Except.ok.inj e)
  | .error f, .error g =>
    if h : f = g then isTrue (h ▸ rfl) else isFalse fun e => h (Except.error.inj e)
  | .ok _, .error _ => isFalse nofun
  | .error _, .ok _ => isFalse nofun

/-- A computation of two parts answers when both parts do. -/
theorem bind_eq_ok {α β : Type} {first : Except Fault α} {second : α → Except Fault β} {b : β} :
    first >>= second = .ok b ↔ ∃ a, first = .ok a ∧ second a = .ok b := by
  cases first <;> simp [bind, Except.bind]

/-- A computation of two parts fails when either does. -/
theorem bind_eq_error {α β : Type} {first : Except Fault α} {second : α → Except Fault β}
    {fault : Fault} :
    first >>= second = .error fault
      ↔ first = .error fault ∨ ∃ a, first = .ok a ∧ second a = .error fault := by
  cases first <;> simp [bind, Except.bind]

end Mustache
