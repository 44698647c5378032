import Mustache.Environment
import Mustache.Scanner
import Mustache.Text.Upper
import Mustache.Value.Description

/-!
# Sessions

A session is what a host program does with the library over time. It makes things and gives them
names (environments, templates, stores, renderers, scopes, a scanner), and uses them again later. A
`Session` holds them, together with what surrounds the program (its variables and files) and what
was recorded: messages, spans, and the names that each host store was asked for.

A step either answers or fails, and the session goes on after a failure. What a step changed before
it failed stays changed; the name that it was to give to a thing stays as it was.
-/

namespace Mustache

/-! ## Records -/

/-- **A message for the log.** -/
inductive Message where
  | compiled (tokens nodes : Nat)
  | missingName (name : Chars)
  | missingPartial (name : Chars)
deriving DecidableEq, Repr, Inhabited

/-- The wording of a message. -/
def Message.text : Message → Chars
  | .compiled tokens nodes =>
    "Compiled template: ".toList ++ Chars.ofNat tokens ++ " tokens, ".toList
      ++ Chars.ofNat nodes ++ " top-level nodes".toList
  | .missingName name =>
    "Name ".toList ++ Text.quoted name ++ " not found, rendering it as empty".toList
  | .missingPartial name =>
    "Partial ".toList ++ Text.quoted name ++ " not found, rendering it as empty".toList

/-- The message that an event of a rendering leaves in the log. -/
def RenderEvent.message? : RenderEvent → Option Message
  | .missingName name => some (.missingName name)
  | .missingPartial name => some (.missingPartial name)
  | _ => none

/-- What a span is about. -/
inductive Activity where
  | compile
  | render
deriving DecidableEq, Repr, Inhabited

/-- The name of a span. -/
def Activity.name : Activity → Chars
  | .compile => "stache.compile".toList
  | .render => "stache.render".toList

/-- **A span**: an activity, the length of its template, and the kind of the fault that ended it. -/
structure Span where
  activity : Activity
  length : Nat
  fault : Option FaultKind
deriving DecidableEq, Repr, Inhabited

/-! ## Host stores -/

/-- **How a store of the host answers.** -/
inductive HostStore where
  /-- With the name in upper case. -/
  | upperCase
  /-- With the text under the name. -/
  | table (entries : Table)
  /-- Always with the same fault. -/
  | failing (fault : Fault)
deriving Inhabited

namespace HostStore

/-- What the store answers. -/
def answer (name : Chars) : HostStore → Except Fault Chars
  | .upperCase => .ok (Text.upper name)
  | .table entries => (Leaf.table entries).answer (fun _ => .ok) name
  | .failing fault => .error fault

/-- The store with a text under a name, if it holds texts. -/
def set (name text : Chars) : HostStore → HostStore
  | .table entries => .table (entries.insert name text)
  | store => store

end HostStore

/-! ## The state of a session -/

/-- An environment of a session; the spans of the one made by default are not recorded. -/
structure SessionEnvironment where
  environment : Environment
  recorded : Bool

/-- A host store of a session, and the names it was asked for, latest first. -/
structure SessionHost where
  store : HostStore
  asked : List Chars

/-- A template of a session, and the environment that compiled it. -/
structure SessionTemplate where
  template : Template
  environment : Nat

/-- **A renderer**: what it renders with, and its state from one rendering to the next. -/
structure Renderer where
  settings : RenderSettings
  store : Store
  state : RenderState

/-- Things by name; the latest of a name counts. -/
abbrev Names (α : Type) := List (Chars × α)

/-- **A session.** -/
structure Session where
  vars : Table
  files : Table
  /-- What reads the settings files. -/
  reader : SettingsFile.Reader
  environments : List SessionEnvironment
  environmentNames : Names Nat
  /-- The environment made by default, once there is one. -/
  defaultEnvironment : Option Nat
  hosts : List SessionHost
  stores : Names Store
  templates : Names SessionTemplate
  renderers : Names Renderer
  scopes : Names Scope
  scanner : Scanner
  /-- The messages, latest first. -/
  messages : List Message
  /-- The spans, latest first. -/
  spans : List Span

namespace Session

/-- A session in which nothing was done yet, with what reads its settings files. -/
def fresh (reader : SettingsFile.Reader) : Session where
  vars := []
  files := []
  reader
  environments := []
  environmentNames := []
  defaultEnvironment := none
  hosts := []
  stores := []
  templates := []
  renderers := []
  scopes := []
  scanner := .start []
  messages := []
  spans := []

/-- What the host's stores answer, as they are now. -/
def hostAnswer (session : Session) : HostAnswer := fun handle name =>
  match session.hosts[handle]? with
  | some host => host.store.answer name
  | none => .error (.partialNotFound name)

/-- The handle of a leaf that is a host store. -/
def hostHandle? : Leaf → Option Nat
  | .host handle => some handle
  | .table _ => none

/-- Records that a host store was asked for a name. -/
def recordAsked (name : Chars) (session : Session) (handle : Nat) : Session :=
  { session with
    hosts := session.hosts.modify handle fun host => { host with asked := name :: host.asked } }

/-- **Asks a store of the session**, and records which host stores were asked. -/
def ask (session : Session) (store : Store) (name : Chars) : Except Fault Chars × Session :=
  let inquiry := store.ask session.hostAnswer name
  (inquiry.outcome, (inquiry.asked.filterMap hostHandle?).foldl (recordAsked name) session)

/-- **Records what an event of a rendering leaves behind**: a message, or the names that host
stores were asked for. -/
def recordEvent (store : Store) (session : Session) (event : RenderEvent) : Session :=
  match event with
  | .asked name => (session.ask store name).2
  | event => { session with messages := event.message?.toList ++ session.messages }

/-- Records all events of a rendering, given latest first. -/
def recordEvents (session : Session) (store : Store) (journal : List RenderEvent) : Session :=
  journal.reverse.foldl (recordEvent store) session

/-- Records a span of an environment whose spans are recorded. -/
def recordSpan (session : Session) (recorded : Bool) (activity : Activity) (length : Nat)
    (fault : Option FaultKind) : Session :=
  if recorded then { session with spans := ⟨activity, length, fault⟩ :: session.spans }
  else session

end Session

/-- **A computation in a session.** -/
abbrev SessionM := ExceptT Fault (StateM Session)

namespace SessionM

/-- The thing of a name. -/
def named {α : Type} (names : Session → Names α) (name : Chars) : SessionM α := do
  match (names (← get)).lookup name with
  | some thing => return thing
  | none => throw (.noMember name)

/-- The kind of the fault of an outcome. -/
def faultKind {α : Type} : Except Fault α → Option FaultKind
  | .ok _ => none
  | .error fault => some fault.kind

/-! ## Stores -/

/-- A new host store, by its handle. -/
def addHost (store : HostStore) : SessionM Nat := do
  let handle := (← get).hosts.length
  modify fun session => { session with hosts := session.hosts ++ [⟨store, []⟩] }
  return handle

/-- A store as an argument: one that is a table counts as a table. -/
def asArgument : Store → PartialsArgument
  | .table entries => .table entries
  | store => .store store

end SessionM

/-- **What a step gives where partials belong.** -/
inductive StoreRequest where
  | nothing
  | table (entries : Table)
  /-- A store of the session, by its name. -/
  | named (name : Chars)
  /-- A new store of the host. -/
  | host (store : HostStore)
  /-- A chain of stores. -/
  | chain (stores : List StoreRequest)
  /-- A value of another type. -/
  | other (typeName : Chars)
deriving Inhabited

/-- **What a step gives as data.** -/
inductive DataRequest where
  | value (value : Value)
  /-- A scope of the session, by its name. -/
  | named (name : Chars)
deriving Inhabited

namespace SessionM

mutual

/-- **The partials that a request stands for.** -/
def partialsOf : StoreRequest → SessionM PartialsArgument
  | .nothing => return .nothing
  | .table entries => return .table entries
  | .named name => do return asArgument (← named (·.stores) name)
  | .host store => do return .store (.host (← addHost store))
  | .chain requests => do return .store (.chain (← storesOf requests))
  | .other typeName => return .other typeName

/-- The stores of a chain. -/
def storesOf : List StoreRequest → SessionM (List Store)
  | [] => return []
  | request :: rest => do
    let argument ← partialsOf request
    let store ← ofExcept argument.toStore
    let others ← storesOf rest
    return store :: others

end

/-- The data that a request stands for. -/
def dataOf : DataRequest → SessionM Data
  | .value given => return .value given
  | .named name => do return .scope (← named (·.scopes) name)

/-! ## Environments -/

/-- An environment of the session. -/
def environmentOf (handle : Nat) : SessionM SessionEnvironment := do
  match (← get).environments[handle]? with
  | some found => return found
  | none => throw (.noMember [])

/-- A new environment, by its handle. -/
def addEnvironment (environment : Environment) (recorded : Bool) : SessionM Nat := do
  let handle := (← get).environments.length
  modify fun session =>
    { session with environments := session.environments ++ [⟨environment, recorded⟩] }
  return handle

/-- The directory that a request or the surroundings name for the settings file; the current one if
neither does. -/
def settingsDirectory (directory : Option Chars) (vars : Table) : Chars :=
  let fromVariable := (vars.text? "STACHE_CONFIG_DIR".toList).getD []
  match directory with
  | some asked => if asked = [] then fromVariable else asked
  | none => fromVariable

/-- A path without empty and dotted parts. -/
def normalPath (path : Chars) : Chars :=
  Chars.join '/' ((Chars.split '/' path).filter fun part => part ≠ [] && part ≠ ['.'])

/-- The most octets that a part of a path may have. -/
def longestPart : Nat := 255

/-- A part of the path has too many octets for a file of that path to be looked for. -/
def isTooLong (path : Chars) : Bool :=
  (Chars.split '/' path).any fun part => longestPart < (String.ofList part).utf8ByteSize

/-- **What there is of the settings file** of a path. -/
def findFile (path : Chars) : SessionM SettingsFile.Found := do
  let session ← get
  if isTooLong path then
    return .unknown
      (.host .system ("[Errno 36] File name too long: ".toList ++ Text.quoted path))
  else return .ofText session.reader (session.files.text? path)

/-- **What surrounds the session**, with the settings file of a directory. -/
def surroundingsAt (directory : Option Chars) : SessionM Surroundings := do
  let vars := (← get).vars
  let path := normalPath (settingsDirectory directory vars ++ "/pyproject.toml".toList)
  let found ← findFile path
  ofExcept (Surroundings.read vars path found)

/-- **Makes an environment.** -/
def createEnvironment (request : SettingsRequest) (escaper : Option Escaper)
    (partials : StoreRequest) (directory : Option Chars) (recorded : Bool) : SessionM Nat := do
  let argument ← partialsOf partials
  let surroundings ← surroundingsAt directory
  let environment ← ofExcept (Environment.create request surroundings escaper argument)
  addEnvironment environment recorded

/-- **The environment made by default**: made when it is first needed, and kept from then on. -/
def defaultEnvironment : SessionM Nat := do
  match (← get).defaultEnvironment with
  | some handle => return handle
  | none =>
    let handle ← createEnvironment ⟨.null, .null, .null, .null⟩ none .nothing none false
    modify fun session => { session with defaultEnvironment := some handle }
    return handle

/-- Changes an environment. -/
def putEnvironment (handle : Nat) (environment : Environment) : SessionM Unit :=
  modify fun session =>
    { session with
      environments := session.environments.modify handle fun old => { old with environment } }

/-- **Compiles a template**, and records a span and a message. -/
def compile (handle : Nat) (source : Chars) : SessionM SessionTemplate := do
  let entry ← environmentOf handle
  let outcome := Template.compile source
  modify fun session =>
    session.recordSpan entry.recorded .compile source.length (faultKind outcome)
  let template ← ofExcept outcome
  let message := .compiled template.tokens.length template.document.children.length
  modify fun session => { session with messages := message :: session.messages }
  return ⟨template, handle⟩

/-- **Renders a compiled template**, and records a span and what the rendering tells. -/
def renderTemplate (compiled : SessionTemplate) (data : Data) (partials : PartialsArgument) :
    SessionM Chars := do
  let entry ← environmentOf compiled.environment
  let session ← get
  let (outcome, after) := entry.environment.renderTemplate session.hostAnswer compiled.template
    data partials .fresh
  let store := (entry.environment.partials partials).toOption.getD (.chain [])
  let session := session.recordEvents store after.journal
  set (session.recordSpan entry.recorded .render compiled.template.source.length
    (faultKind outcome))
  ofExcept outcome

/-- **Renders a template from its source.** -/
def renderSource (handle : Nat) (source : Chars) (data : DataRequest) (partials : StoreRequest) :
    SessionM Chars := do
  let data ← dataOf data
  let argument ← partialsOf partials
  let compiled ← compile handle source
  renderTemplate compiled data argument

/-- **Renders a node by itself.** -/
def renderNode (node : Node) (data : DataRequest) (partials : StoreRequest) : SessionM Chars := do
  let data ← dataOf data
  let argument ← partialsOf partials
  ofExcept (node.renderAlone (← get).hostAnswer data argument .fresh).1

/-! ## Renderers -/

/-- **What a renderer is asked to be**: values that are taken as they are, without a check. -/
structure RendererRequest where
  missingVariables : Value
  missingPartials : Value
  maxPartialDepth : Option Value
  escape : Option Escaper

/-- The limit that a floating-point number makes. One that cannot be compared does not cut the room
that the stack leaves. -/
def limitOfFloat (x : Float) : DepthLimit :=
  let ceiling := partialDepthCeiling stackFrames
  let shown := Scalar.floatLayout.writeFloat x
  match Decimal.Binary.ofFloat x with
  | .notANumber => .fraction ceiling shown
  | .infinite negative => if negative then .fraction 0 shown else .whole ceiling
  | .finite negative significand exponent =>
    if Float.ofInt ceiling < x then .whole ceiling
    else .fraction (Decimal.Binary.truncate negative significand exponent) shown

/-- A limit must at least be a number that can be compared; none is the usual one. -/
def uncheckedLimit : Option Value → Except Fault DepthLimit
  | none => .ok (.whole (effectiveLimit Settings.standard.maxPartialDepth))
  | some (.scalar (.integer n)) => .ok (.whole (effectiveLimit n))
  | some (.scalar (.boolean flag)) => .ok (.flag flag)
  | some (.scalar (.float x)) => .ok (limitOfFloat x)
  | some value => .error (.host .type
      ("'<' not supported between instances of 'int' and '".toList ++ value.typeName ++ ['\'']))

/-- **A new renderer.** -/
def createRenderer (request : RendererRequest) (partials : StoreRequest) : SessionM Renderer := do
  let argument ← partialsOf partials
  let store ← ofExcept argument.toStore
  let limit ← ofExcept (uncheckedLimit request.maxPartialDepth)
  let settings : RenderSettings :=
    { missingVariables := .of request.missingVariables
      missingPartials := .of request.missingPartials
      escape := request.escape.map (·.apply)
      limit }
  return ⟨settings, store, .fresh⟩

/-- **Renders a node with a renderer**, which keeps its state. -/
def renderWith (name : Chars) (node : Node) (data : DataRequest) : SessionM Chars := do
  let renderer ← named (·.renderers) name
  let data ← dataOf data
  let scope ← ofExcept data.toScope
  let session ← get
  let (outcome, after) := render renderer.settings (renderer.store.fetch session.hostAnswer) node
    scope renderer.state
  let session := session.recordEvents renderer.store after.journal
  let renderer := { renderer with state := { after with journal := [] } }
  set { session with renderers := (name, renderer) :: session.renderers }
  ofExcept outcome

/-- The order of the partials that a renderer keeps: by name, then by indentation. -/
def keyLe (left right : PartialKey) : Bool :=
  if left.1 = right.1 then !decide (right.2 < left.2) else decide (left.1 < right.1)

/-- The partials that a renderer keeps, in order. -/
def keptPartials (renderer : Renderer) : List PartialKey :=
  (renderer.state.cache.map (·.1)).mergeSort keyLe

end SessionM

end Mustache
