import Mustache.Session

/-!
# The steps of a session

Each step of a session is a `Step`, and what it answers an `Answer`. `Step.run` carries a step out.
-/

namespace Mustache

/-- What a step does with the scanner. -/
inductive ScannerMove where
  | scan (pattern : Pattern)
  | hasMatch (pattern : Pattern)
  | find (literal : Chars)
  | scanTo (offset : Int)
  | stay
deriving DecidableEq, Repr, Inhabited

/-- What a move of the scanner gives. -/
inductive ScannerFinding where
  | nothing
  | taken (text : Chars)
  | matched (flag : Bool)
  | found (offset : Option Nat)
deriving DecidableEq, Repr, Inhabited

/-- What a renderer is given to render. -/
inductive RenderSubject where
  | node (node : Node)
  | source (source : Chars)
deriving Inhabited

/-- **A step of a session.** -/
inductive Step where
  | setVariables (changes : List (Chars × Option Chars))
  | writeFile (path text : Chars)
  | takeMessages
  | takeSpans
  | createEnvironment (name : Chars) (request : SettingsRequest) (escaper : Option Escaper)
      (partials : StoreRequest) (directory : Option Chars)
  | register (environment name text : Chars)
  | unregister (environment name : Chars)
  | getPartial (environment name : Chars) (extra : StoreRequest)
  | render (environment source : Chars) (data : DataRequest) (partials : StoreRequest)
  | compile (environment name source : Chars)
  | renderTemplate (template : Chars) (data : DataRequest) (partials : StoreRequest)
  | renderDefault (source : Chars) (data : DataRequest) (partials : StoreRequest)
  | compileDefault (name source : Chars)
  | loadSetting (setting : Chars) (asked file : Value)
  | loadSettingFromFile (setting : Chars) (asked : Value) (directory : Option Chars)
  | createStore (name : Chars) (store : StoreRequest)
  | storeGet (store name : Chars)
  | storeItem (store name : Chars)
  | storeHas (store name : Chars)
  | storeState (store : Chars)
  | storeSet (store name text : Chars)
  | storeCalls (store : Chars)
  | createRenderer (name : Chars) (request : SessionM.RendererRequest) (partials : StoreRequest)
  | renderWith (renderer : Chars) (subject : RenderSubject) (data : DataRequest)
  | rendererState (renderer : Chars)
  | createScope (name : Chars) (data : DataRequest)
  | extend (scope name : Chars) (value : Value)
  | resolve (scope path : Chars)
  | resolveExtend (scope name path : Chars)
  | createScanner (source : Chars)
  | moveScanner (move : ScannerMove)
  /-- A step whose values could not be made. -/
  | refused (fault : Fault)

/-- **What a step answers.** -/
inductive Answer where
  | nothing
  | text (text : Chars)
  | flag (flag : Bool)
  | texts (texts : List Chars)
  | spans (spans : List Span)
  | value (value : Value)
  /-- An environment's settings, and the name of the escaper in effect. -/
  | environment (settings : Settings) (escaper : Option Chars)
  | template (template : Template)
  /-- A table's names, and its quoted form. -/
  | table (names : List Chars) (shown : Chars)
  | renderer (depth : Nat) (limit : DepthLimit) (kept : List PartialKey)
  /-- A scope's quoted form and the number of its frames. -/
  | frames (shown : Chars) (count : Nat)
  | description (description : Description)
  | scanner (finding : ScannerFinding) (position : Nat) (remaining lineStart : Bool)
deriving Inhabited

namespace Step

open SessionM

/-- The answer that tells of an environment. -/
def tellEnvironment (environment : Environment) : Answer :=
  .environment environment.settings (environment.escaperInEffect.map (·.name))

/-- The setting of a name. -/
def settingOf (name : Chars) : SessionM Setting :=
  match Setting.ofName? name with
  | some setting => return setting
  | none => throw (.unknownOption name)

/-- **The choice for a setting**, by the setting's name. -/
def choose (name : Chars) (asked : Value) (surroundings : Surroundings) :
    SessionM Answer := do
  let setting ← settingOf name
  let choice ← ofExcept (setting.load asked surroundings)
  return .value (setting.toValue choice)

/-- What a store is called. -/
def storeName : Store → Chars
  | .table _ => "DictPartials".toList
  | .chain _ => "ChainedPartials".toList
  | .host _ => "CustomStore".toList

/-- The table of a store; a store that is none fails with a wording that gives its name. -/
def tableOf (wording : Chars → Chars) (name : Chars) : SessionM Table := do
  match ← named (·.stores) name with
  | .table entries => return entries
  | store => throw (.host .type (wording (storeName store)))

/-- The handle of a store that is the host's own. -/
def hostOf (name : Chars) : SessionM Nat := do
  match ← named (·.stores) name with
  | .host handle => return handle
  | _ => throw .notATable

/-- The wording for a store that has no members by index. -/
def noItems (store : Chars) : Chars := ['\''] ++ store ++ "' object is not subscriptable".toList

/-- The wording for a store that cannot be searched. -/
def noSearch (store : Chars) : Chars :=
  "argument of type '".toList ++ store ++ "' is not iterable".toList

/-- The wording for a store that has no size. -/
def noSize (store : Chars) : Chars :=
  "object of type '".toList ++ store ++ "' has no len()".toList

/-- The quoted form of a store that is a table. -/
def tableQuoted (entries : Table) : Except Fault Chars := do
  let shown := entries.map fun entry => (Value.ofChars entry.1, Value.ofChars entry.2)
  return storeName (.table entries) ++ '(' :: (← (Value.mapping shown).quoted) ++ [')']

/-- Sets or removes one variable. -/
def setVariable (vars : Table) (change : Chars × Option Chars) : Table :=
  match change.2 with
  | some text => vars.insert change.1 text
  | none => vars.erase change.1

/-- **Moves the scanner.** -/
def move (scanner : Scanner) : ScannerMove → Except Fault (ScannerFinding × Scanner)
  | .scan pattern => do
    let (taken, scanner) ← scanner.scan pattern
    return (.taken taken, scanner)
  | .hasMatch pattern => return (.matched (scanner.hasMatch pattern), scanner)
  | .find literal => return (.found (scanner.find? literal), scanner)
  | .scanTo offset => do
    let (taken, scanner) ← scanner.scanTo offset
    return (.taken taken, scanner)
  | .stay => return (.nothing, scanner)

/-- **Carries out a step.** -/
def run : Step → SessionM Answer
  | .setVariables changes => do
    modify fun session =>
      { session with vars := changes.foldl setVariable session.vars }
    return .nothing
  | .writeFile path text => do
    modify fun session => { session with files := session.files.insert (normalPath path) text }
    return .nothing
  | .takeMessages => do
    let session ← get
    set { session with messages := [] }
    return .texts (session.messages.reverse.map Message.text)
  | .takeSpans => do
    let session ← get
    set { session with spans := [] }
    return .spans session.spans.reverse
  | .createEnvironment name request escaper partials directory => do
    let handle ← SessionM.createEnvironment request escaper partials directory true
    modify fun session =>
      { session with environmentNames := (name, handle) :: session.environmentNames }
    return tellEnvironment (← environmentOf handle).environment
  | .register environment name text => do
    let handle ← named (·.environmentNames) environment
    let entry ← environmentOf handle
    putEnvironment handle (entry.environment.register name text)
    return .nothing
  | .unregister environment name => do
    let handle ← named (·.environmentNames) environment
    let entry ← environmentOf handle
    let changed ← ofExcept (entry.environment.unregister name)
    putEnvironment handle changed
    return .nothing
  | .getPartial environment name extra => do
    let handle ← named (·.environmentNames) environment
    let entry ← environmentOf handle
    let argument ← partialsOf extra
    let store ← ofExcept (entry.environment.partials argument)
    let (outcome, session) := (← get).ask store name
    set session
    return .text (← ofExcept outcome)
  | .render environment source data partials => do
    let handle ← named (·.environmentNames) environment
    return .text (← renderSource handle source data partials)
  | .compile environment name source => do
    let handle ← named (·.environmentNames) environment
    let compiled ← SessionM.compile handle source
    modify fun session => { session with templates := (name, compiled) :: session.templates }
    return .template compiled.template
  | .renderTemplate template data partials => do
    let compiled ← named (·.templates) template
    let data ← dataOf data
    let argument ← partialsOf partials
    return .text (← SessionM.renderTemplate compiled data argument)
  | .renderDefault source data partials => do
    let data ← dataOf data
    let argument ← partialsOf partials
    let handle ← defaultEnvironment
    let compiled ← SessionM.compile handle source
    return .text (← SessionM.renderTemplate compiled data argument)
  | .compileDefault name source => do
    let handle ← defaultEnvironment
    let compiled ← SessionM.compile handle source
    modify fun session => { session with templates := (name, compiled) :: session.templates }
    return .template compiled.template
  | .loadSetting setting asked file => do
    choose setting asked ⟨(← get).vars, file⟩
  | .loadSettingFromFile setting asked directory => do
    let surroundings ← surroundingsAt directory
    choose setting asked surroundings
  | .createStore name request => do
    let argument ← partialsOf request
    let store ← ofExcept argument.toStore
    modify fun session => { session with stores := (name, store) :: session.stores }
    return .text (storeName store)
  | .storeGet store name => do
    let found ← named (·.stores) store
    let (outcome, session) := (← get).ask found name
    set session
    return .text (← ofExcept outcome)
  | .storeItem store name => do
    let entries ← tableOf noItems store
    match entries.text? name with
    | some text => return .text text
    | none => throw (.noMember name)
  | .storeHas store name => do
    let entries ← tableOf noSearch store
    return .flag (entries.hasName name)
  | .storeState store => do
    let entries ← tableOf noSize store
    return .table (entries.map (·.1)) (← ofExcept (tableQuoted entries))
  | .storeSet store name text => do
    let handle ← hostOf store
    modify fun session =>
      { session with
        hosts := session.hosts.modify handle fun host =>
          { host with store := host.store.set name text } }
    return .nothing
  | .storeCalls store => do
    let handle ← hostOf store
    let session ← get
    set { session with hosts := session.hosts.modify handle fun host => { host with asked := [] } }
    return .texts (((session.hosts[handle]?).map (·.asked.reverse)).getD [])
  | .createRenderer name request partials => do
    let renderer ← SessionM.createRenderer request partials
    modify fun session => { session with renderers := (name, renderer) :: session.renderers }
    return .nothing
  | .renderWith renderer subject data => do
    let node ← match subject with
      | .node node => pure node
      | .source source => do
        let document ← ofExcept (Document.parse source)
        pure document.toNode
    return .text (← SessionM.renderWith renderer node data)
  | .rendererState renderer => do
    let found ← named (·.renderers) renderer
    return .renderer found.state.depth found.settings.limit (keptPartials found)
  | .createScope name data => do
    let scope ← ofExcept (← dataOf data).toScope
    let shown ← ofExcept scope.quoted
    modify fun session => { session with scopes := (name, scope) :: session.scopes }
    return .text shown
  | .extend scope name value => do
    let found ← named (·.scopes) scope
    let inner := found.extend (← ofExcept value.reflect)
    let shown ← ofExcept inner.quoted
    modify fun session => { session with scopes := (name, inner) :: session.scopes }
    return .frames shown inner.frames.length
  | .resolve scope path => do
    let value ← ofExcept ((← named (·.scopes) scope).resolve path)
    return .description (← ofExcept value.describe)
  | .resolveExtend scope name path => do
    let found ← named (·.scopes) scope
    let inner := found.extend (← ofExcept (found.resolve path))
    let shown ← ofExcept inner.quoted
    modify fun session => { session with scopes := (name, inner) :: session.scopes }
    return .text shown
  | .createScanner source => do
    modify fun session => { session with scanner := .start source }
    return .nothing
  | .moveScanner wanted => do
    let (finding, scanner) ← ofExcept (move (← get).scanner wanted)
    modify fun session => { session with scanner }
    let lineStart ← ofExcept scanner.atLineStart
    return .scanner finding scanner.position scanner.hasRemaining lineStart
  | .refused fault => throw fault

end Step

namespace Session

/-- **Carries out steps one after the other**, each answered or failed on its own. -/
def runAll : List Step → Session → List (Except Fault Answer)
  | [], _ => []
  | step :: rest, session =>
    let (outcome, session) := step.run session
    outcome :: runAll rest session

end Session

end Mustache
