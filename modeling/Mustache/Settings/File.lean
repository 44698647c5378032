import Mustache.Decimal.Float
import Mustache.Decimal.Integer
import Mustache.Value.Member

/-!
# The settings file

Settings may stand in a file, in the table `tool.stache`. What is done with a file hangs on what
there is of it (`Found`), and that on a `Reader`, which finds the tables of a file in its text.

Here is also a reader of plain files, `read?`, which goes line by line: a header names the table
that the lines after it belong to, a line with an equals sign gives a key its value, and the rest of
a line after a number sign is a comment. A value is a string, a number, a truth value, an array, or
an empty table. A line that is none of these, a key given twice, and a table opened twice make the
whole file unreadable. Nothing else hangs on this reader: a session may be given any other.
-/

namespace Mustache

namespace SettingsFile

/-- **One line of the file.** -/
inductive Line where
  | blank
  | header (path : List Chars)
  /-- The header of one more table in an array of tables. -/
  | arrayHeader (name : Chars)
  | assignment (path : List Chars) (value : Value)

/-! ## Reading a line -/

/-- The text after its blanks. -/
def skip (text : Chars) : Chars := text.dropWhile Text.isBlank

/-- Nothing is left of the line but blanks and a comment. -/
def endsLine (text : Chars) : Bool :=
  match skip text with
  | [] => true
  | c :: _ => c == '#'

/-- A character of a key without quotes. -/
def isKey (c : Char) : Bool := c.isAlphanum || c == '_' || c == '-'

/-- A character that may not stand in the file as it is. -/
def isControl (c : Char) : Bool := (c.toNat < 0x20 && c != '\t') || c.toNat = 0x7F

/-- The character of an escape by its letter. -/
def escaped? : Char → Option Char
  | '"' => some '"'
  | '\\' => some '\\'
  | 'b' => some '\x08'
  | 't' => some '\t'
  | 'n' => some '\n'
  | 'f' => some '\x0c'
  | 'r' => some '\r'
  | _ => none

/-- The value of a hexadecimal digit. -/
def hexValue? (c : Char) : Option Nat :=
  if '0' ≤ c && c ≤ '9' then some (c.toNat - '0'.toNat)
  else if 'a' ≤ c && c ≤ 'f' then some (c.toNat - 'a'.toNat + 10)
  else if 'A' ≤ c && c ≤ 'F' then some (c.toNat - 'A'.toNat + 10)
  else none

/-- The character of a code point given by hexadecimal digits. -/
def ofHex? (digits : Chars) : Option Char := do
  let values ← digits.mapM hexValue?
  let point := values.foldl (fun n digit => 16 * n + digit) 0
  if point.isValidChar then some (Char.ofNat point) else none

/-- The rest of a string after its opening quote, and what follows its closing quote. -/
def readString? : Chars → Option (Chars × Chars)
  | [] => none
  | '"' :: rest => some ([], rest)
  | '\\' :: 'u' :: a :: b :: c :: d :: rest => do
    let first ← ofHex? [a, b, c, d]
    let (others, after) ← readString? rest
    some (first :: others, after)
  | '\\' :: 'U' :: a :: b :: c :: d :: e :: f :: g :: h :: rest => do
    let first ← ofHex? [a, b, c, d, e, f, g, h]
    let (others, after) ← readString? rest
    some (first :: others, after)
  | '\\' :: letter :: rest => do
    let first ← escaped? letter
    let (others, after) ← readString? rest
    some (first :: others, after)
  | c :: rest => do
    if isControl c then none
    let (others, after) ← readString? rest
    some (c :: others, after)

/-- A key: a run of key characters, or a string. -/
def readKey? (text : Chars) : Option (Chars × Chars) :=
  match text with
  | '"' :: rest => readString? rest
  | _ =>
    let key := text.takeWhile isKey
    if key = [] then none else some (key, text.dropWhile isKey)

/-- Keys with points between them, at most `most` of them. -/
def readPath? : Nat → Chars → Option (List Chars × Chars)
  | 0, _ => none
  | most + 1, text => do
    let (key, after) ← readKey? (skip text)
    match skip after with
    | '.' :: rest =>
      let (keys, after) ← readPath? most rest
      some (key :: keys, after)
    | rest => some ([key], rest)

/-- Digits stand on both sides of a point. -/
def pointsWell (digits : Chars) : Bool :=
  match digits.dropWhile Decimal.isDigit with
  | '.' :: rest =>
    (digits.head?.any Decimal.isDigit) && (rest.head?.any Decimal.isDigit)
  | _ => true

/-- The base that a letter after a zero announces. -/
def base? : Char → Option Nat
  | 'x' => some 16
  | 'o' => some 8
  | 'b' => some 2
  | _ => none

/-- The character is a digit of the base. -/
def isDigitOf (base : Nat) (c : Char) : Bool := (hexValue? c).any (· < base)

/-- An integer in another base than ten. -/
def readBased? : Chars → Option Nat
  | '0' :: letter :: rest => do
    let base ← base? letter
    let digits ← Decimal.joinDigits? (isDigitOf base) false rest
    if digits.isEmpty || digits.any fun c => !isDigitOf base c then none
    let values ← digits.mapM hexValue?
    return values.foldl (fun n digit => base * n + digit) 0
  | _ => none

/-- A decimal number. Its whole digits do not begin with a zero, unless that is the only one. -/
def readDecimal? (word : Chars) : Option Value := do
  let digits := (Decimal.takeSign word).2
  let whole := digits.takeWhile fun c => Decimal.isDigit c || c == '_'
  if whole.length > 1 && whole.head? = some '0' then none
  if whole = digits then (Decimal.readInt? word).map .ofInt
  else
    let joined ← Decimal.joinDigits? Decimal.isDigit false word
    if pointsWell (Decimal.takeSign joined).2 then
      (Decimal.readNumeral? joined).map fun x => .scalar (.float x)
    else none

/-- A number or a truth value. -/
def readWord? (word : Chars) : Option Value :=
  let unsigned := (Decimal.takeSign word).2
  if word = "true".toList then some (.scalar (.boolean true))
  else if word = "false".toList then some (.scalar (.boolean false))
  else if unsigned = "inf".toList ∨ unsigned = "nan".toList then
    (Decimal.readFloat? word).map fun x => .scalar (.float x)
  else
    match readBased? word with
    | some n => some (.ofInt n)
    | none => readDecimal? word

/-- A character that ends a number or a truth value. -/
def endsWord (c : Char) : Bool :=
  Text.isBlank c || c == ',' || c == ']' || c == '\x7d' || c == '#'

mutual

/-- A value and what follows it, nested at most `room` deep. -/
def readValue? : Nat → Chars → Option (Value × Chars)
  | 0, _ => none
  | room + 1, text =>
    match text with
    | '"' :: rest => (readString? rest).map fun (string, after) => (.ofChars string, after)
    | '[' :: rest => (readItems? room rest).map fun (items, after) => (.list items, after)
    | '\x7b' :: rest =>
      match skip rest with
      | '\x7d' :: after => some (.mapping [], after)
      | _ => none
    | _ =>
      (readWord? (text.takeWhile fun c => !endsWord c)).map fun value =>
        (value, text.dropWhile fun c => !endsWord c)

/-- The items of an array after its opening bracket, and what follows its closing one. -/
def readItems? : Nat → Chars → Option (List Value × Chars)
  | 0, _ => none
  | room + 1, text =>
    match skip text with
    | ']' :: after => some ([], after)
    | start => do
      let (item, after) ← readValue? room start
      match skip after with
      | ']' :: after => some ([item], after)
      | ',' :: rest =>
        let (items, after) ← readItems? room rest
        some (item :: items, after)
      | _ => none

end

/-- **What a line says.** -/
def readLine? (line : Chars) : Option Line := do
  match skip line with
  | [] => some .blank
  | '#' :: _ => some .blank
  | '[' :: '[' :: rest =>
    let (path, after) ← readPath? 1 rest
    match path, after with
    | [name], ']' :: ']' :: after => if endsLine after then some (.arrayHeader name) else none
    | _, _ => none
  | '[' :: rest =>
    let (path, after) ← readPath? rest.length rest
    match after with
    | ']' :: after => if endsLine after then some (.header path) else none
    | _ => none
  | start =>
    let (path, after) ← readPath? start.length start
    match after with
    | '=' :: rest =>
      let (value, after) ← readValue? (rest.length + 1) (skip rest)
      if endsLine after then some (.assignment path value) else none
    | _ => none

/-! ## Building the tables -/

/-- The entries of a table. -/
abbrev Entries := List (Value × Value)

/-- The entries with another value for a key that is there. -/
def replace (key : Chars) (value : Value) (entries : Entries) : Entries :=
  entries.map fun entry => if entry.1.string? = some key then (entry.1, value) else entry

/-- **Changes the table at a path**, opening the tables on the way. Of an array of tables the last
one is meant. -/
def changeAt (change : Entries → Option Entries) : List Chars → Entries → Option Entries
  | [], entries => change entries
  | key :: path, entries =>
    match Value.entry? key entries with
    | none => do
      let inner ← changeAt change path []
      some (entries ++ [(.ofChars key, .mapping inner)])
    | some (.mapping inner) => do
      let inner ← changeAt change path inner
      some (replace key (.mapping inner) entries)
    | some (.list tables) =>
      match tables.getLast? with
      | some (.mapping inner) => do
        let inner ← changeAt change path inner
        some (replace key (.list (tables.dropLast ++ [.mapping inner])) entries)
      | _ => none
    | some _ => none

/-- One more key in a table that does not have it yet. -/
def addKey (key : Chars) (value : Value) (entries : Entries) : Option Entries :=
  match Value.entry? key entries with
  | some _ => none
  | none => some (entries ++ [(.ofChars key, value)])

/-- One more table in an array of tables. -/
def addTable (name : Chars) (entries : Entries) : Option Entries :=
  match Value.entry? name entries with
  | none => some (entries ++ [(.ofChars name, .list [.mapping []])])
  | some (.list tables) => some (replace name (.list (tables ++ [.mapping []])) entries)
  | some _ => none

/-- **The file as far as it was read**: its tables, the path of the current one, the paths of the
headers so far, and the paths that were given a value. -/
structure Progress where
  root : Entries
  current : List Chars
  headers : List (List Chars)
  given : List (List Chars)

namespace Progress

/-- Nothing was read. -/
def empty : Progress := ⟨[], [], [], []⟩

/-- The path, or one it leads through, was given a value, which no later line may change. -/
def isGiven (progress : Progress) (path : List Chars) : Bool :=
  progress.given.any fun earlier => earlier.isPrefixOf path

/-- Forgets the headers and the values inside a table, where another of its array begins. -/
def forget (progress : Progress) (name : Chars) : Progress :=
  let outside (path : List Chars) : Bool := path.head? ≠ some name
  { progress with
    headers := progress.headers.filter outside
    given := progress.given.filter outside }

end Progress

/-- One more line. -/
def step? (progress : Progress) : Line → Option Progress
  | .blank => some progress
  | .header path => do
    if progress.headers.contains path || progress.isGiven path then none
    let root ← changeAt some path progress.root
    some { progress with root, current := path, headers := path :: progress.headers }
  | .arrayHeader name => do
    let root ← addTable name progress.root
    some { progress.forget name with root, current := [name] }
  | .assignment path value => do
    let whole := progress.current ++ path
    if progress.isGiven whole then none
    let key ← path.getLast?
    let root ← changeAt (addKey key value) whole.dropLast progress.root
    some { progress with root, given := whole :: progress.given }

/-- **The tables of a plain file**, if it can be read. -/
def read? (text : Chars) : Option Entries := do
  let rows := (Chars.lines text).map fun row => Chars.trimEnd (· = '\r') row
  let lines ← rows.mapM readLine?
  let progress ← lines.foldlM step? Progress.empty
  some progress.root

/-- **A reader of settings files**: the tables of a file by its text, if it can be read. -/
abbrev Reader := Chars → Option Entries

/-- **What there is of a settings file**: nothing, a file that cannot be read, or its tables.
Whether there is one may also be impossible to tell. -/
inductive Found where
  | missing
  | unreadable
  | tables (root : Entries)
  | unknown (fault : Fault)

namespace Found

/-- A file by its text, if there is one, with the tables that the reader finds in it. -/
def ofText (reader : Reader) : Option Chars → Found
  | none => .missing
  | some text =>
    match reader text with
    | none => .unreadable
    | some root => .tables root

/-- **The settings of a file**: its table `tool.stache`, or an empty table when there is none. The
table may turn out to be no table at all; only a file that cannot be read, or whose `tool` is no
table, is a fault, and a file of which nothing can be told. -/
def settings (path : Chars) : Found → Except Fault Value
  | .missing => .ok (.mapping [])
  | .unreadable => .error (.badFile path)
  | .tables root =>
    match Value.entry? "tool".toList root with
    | none => .ok (.mapping [])
    | some (.mapping tool) => .ok ((Value.entry? "stache".toList tool).getD (.mapping []))
    | some _ => .error (.badFile path)
  | .unknown fault => .error fault

end Found

end SettingsFile

end Mustache
