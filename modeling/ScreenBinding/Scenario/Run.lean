import ScreenBinding.Scenario.Document
import ScreenBinding.Engine.Task
import ScreenBinding.Config

/-!
# Running scenarios

A run builds a session from a scenario, starts it, and plays the actions. What a user would see
goes into the transcript; an expectation that is not met is noted and the run goes on, while a
fault ends it.
-/
namespace ScreenBinding.Scenario

/-- What ends a run early. -/
inductive Problem where
  | fault (why : Fault)
  | duplicateElement (id : String)
  | unknownElement (id : String)
  | unknownForm (name : String)
  /-- Both an initial state and a URL to fetch it from. -/
  | twoSeeds
  /-- The tasks did not come to rest. -/
  | exhausted
  deriving DecidableEq

def Problem.message : Problem → String
  | fault why => why.message
  | duplicateElement id => "Invalid scenario: duplicate element id " ++ id
  | unknownElement id => "Invalid scenario: unknown element " ++ id
  | unknownForm name => "Invalid scenario: unknown form " ++ name
  | twoSeeds => "Invalid scenario: state and bootstrap are mutually exclusive"
  | exhausted => "Invalid scenario: no end"

/-- A session with the names of its elements and the expectations it failed. -/
structure Stage where
  session : Session
  elements : Table ElementRef := []
  failures : List String := []

abbrev Stage.M := ExceptT Problem (StateM Stage)

namespace Stage

def element (id : String) : Stage.M ElementRef := do
  match Table.find? (← get).elements id with
  | some e => return e
  | none => throw (.unknownElement id)

/-- Carries out a step of the script. -/
def perform (step : Step) : Stage.M Answer := do
  let stage ← get
  match stage.session.perform Session.depthLimit Session.patienceLimit step with
  | none => throw .exhausted
  | some (r, s) =>
      set { stage with session := s }
      match r with
      | .ok a => return a
      | .error f => throw (.fault f)

def command (c : Command) : Stage.M Unit := discard (perform (.now c))

def say (line : String) : Stage.M Unit := modify fun stage =>
  { stage with session := { stage.session with trace := .said line::stage.session.trace } }

def fail (failure : String) : Stage.M Unit := modify fun stage =>
  { stage with failures := stage.failures ++ [failure] }

end Stage

def Kind.control : Kind → Control
  | input => .input ""
  | checkbox => .checkbox false
  | plain => .plain ""

/-- Inputs and check boxes without a name are named by their id. -/
def ElementSpec.build (sep : Separators) (x : ElementSpec) : Element where
  id := some x.id
  name := if x.kind = .plain then x.name else some (x.name.getD x.id)
  classes := x.classes.foldl (fun cs c => Element.insertClass c cs) []
  control := match x.value with
    | some v => x.kind.control.put sep v
    | none => x.kind.control

/-- The first id that stands twice. -/
def repeated? : List String → Option String
  | [] => none
  | ids => (ids.zipIdx.find? fun (id, i) => (ids.take i).contains id).map Prod.fst

def FormScript.options (x : FormScript) : FormOptions Command where
  modal := x.modal
  restore := x.restore
  method := x.method
  error := x.error
  remote := { success := x.success }
  inject := x.confirm.map fun c => { decision := .confirm c.modal c.key (c.field.getD c.key) }
  onSuccess := if x.clean then some [.state .clean] else none

namespace Stage

def defineSurfaces (kind : SurfaceKind) (specs : Table SurfaceSpec) : Stage.M Unit := do
  for (name, x) in specs do
    command (.surface (.define kind name (← element x.element) x.behavior))

def bind (x : BindingSpec) : Stage.M Unit := do
  let e ← element x.element
  let drawn := Source.draw "binding" (← get).session.nextSource
  modify fun stage => { stage with session := { stage.session with nextSource := drawn.2 } }
  for t in (x.trigger.map ([·])).getD Trigger.both do
    command (.relation (.connect t.name x.directives e (some drawn.1)))

/-- Declares everything but the start. -/
def build (doc : Document) : Stage.M Unit := do
  match repeated? (doc.elements.map (·.id)) with
  | some id => throw (.duplicateElement id)
  | none => pure ()
  defineSurfaces .modal doc.modals
  defineSurfaces .interface doc.interfaces
  for (name, patch) in doc.modes do
    command (.surface (.mode name patch none none))
  for (name, patch, screen) in doc.views do
    command (.surface (.mode name patch (some screen) none))
  for x in doc.bindings do
    bind x
  for (name, x) in doc.forms do
    command (.form (.define name (← x.elements.mapM element) x.spec x.options))

def seed (doc : Document) : Stage.M Seed := do
  match doc.state, doc.bootstrap with
  | some _, some _ => throw .twoSeeds
  | some values, none => return .state values
  | none, some url => return .bootstrap url
  | none, none => return .state []

/-- Starts a question in a task of its own and lets the tasks run. -/
def askConfirm (modal : String) (previous next : Json) : Stage.M Unit := do
  let stage ← get
  let s := stage.session.spawn (.asking modal) (.begin (.confirm modal previous next))
  match s.drain Session.depthLimit Session.patienceLimit with
  | some s => set { stage with session := s }
  | none => throw .exhausted

def describe : Answer → String
  | .submitted (.invalid names) => "invalid (" ++ ", ".intercalate names ++ ")"
  | .submitted .rejected => "rejected"
  | .submitted (.submitted _) => "submitted"
  | .submitted (.failed why) => "failed: " ++ why.message
  | .submitted (.native _) => "native"
  | .reloaded outcome => outcome.name
  | _ => ""

/-- Lists are expected as the text that a field shows. -/
def expected (sep : Separators) : Json → Json
  | .array items => .string (sep.textOf (.array items))
  | v => v

/-- Plays the action at a place of the list. -/
def playAction (index : Nat) : Action → Stage.M Unit
  | .type id text => do command (.element (.type (← element id) text))
  | .click id => do command (.element (.click (← element id)))
  | .blur id => do command (.element (.raise (← element id) .blur))
  | .submit form => do
      if !Table.has (← get).session.boundForms form then throw (.unknownForm form)
      say ("submit " ++ form ++ ": " ++ describe (← perform (.submit form)))
  | .respond modal accepted => command (.surface (.respond .modal modal accepted))
  | .setState key v => command (.state (.set key v none))
  | .mergeState key v => command (.state (.merge key v none))
  | .mode name remote => discard (perform (.setMode name remote))
  | .showModal name args => command (.surface (.show .modal name args))
  | .showInterface name args => command (.surface (.show .interface name args))
  | .confirm modal previous next => askConfirm modal previous next
  | .modal method id => do
      let e ← match id with
        | some id => do pure (some (← element id))
        | none => pure none
      command (.host (.modal method e))
  | .message method text important => command (.host (.message method text important))
  | .lock method => command (.host (.lock method))
  | .reload => do say ("reload: " ++ describe (← perform .reload))
  | .dirty => command (.state .dirty)
  | .clean => command (.state .clean)
  | .wait ms => discard (perform (.wait ms))
  | .expect key v => do
      let actual := (Table.find? (← get).session.values key).getD .null
      if !actual.same v then
        fail s!"step {index}: state {key} is {actual.compact}, expected {v.compact}"
  | .expectField id v => do
      let e ← element id
      let s := (← get).session
      let actual := (s.element e).value
      let v := expected s.settings.separators v
      if !actual.same v then
        fail s!"step {index}: element {id} is {actual.compact}, expected {v.compact}"

def playAll (index : Nat) : List Action → Stage.M Unit
  | [] => return ()
  | a::as => do
      playAction index a
      playAll (index+1) as

def run (doc : Document) : Stage.M Unit := do
  build doc
  discard (perform (.start doc.view (← seed doc) doc.options))
  playAll 0 doc.actions

/-- The stage before anything is declared but the elements. -/
def initial (config : Config) (doc : Document) : Stage where
  session :=
    { settings := config.settings, renderer := true, notifier := true,
      transport := some (.http config.transport.baseUrl),
      elements := doc.elements.map (·.build config.settings.separators) }
  elements := doc.elements.zipIdx.map fun (x, i) => (x.id, i)

def transcript (stage : Stage) : List String :=
  stage.session.trace.reverse.filterMap (·.console? stage.session.settings)

end Stage

/-- What a run has produced. -/
structure Report where
  state : Fields
  transcript : List String
  failures : List String
  isDirty : Bool
  unloadWarning : Option String

namespace Report

def passed (r : Report) : Bool := r.failures.isEmpty

def toJson (r : Report) : Json :=
  .object [("state", .object r.state), ("transcript", .texts r.transcript),
    ("failures", .texts r.failures), ("dirty", .bool r.isDirty),
    ("unload_warning", Session.textOrNull r.unloadWarning)]

end Report

def Stage.report (stage : Stage) : Report where
  state := stage.session.values
  transcript := stage.transcript
  failures := stage.failures
  isDirty := stage.session.isDirty
  unloadWarning := stage.session.unloadWarning

/-- Runs a scenario; the stage shows how far it came. -/
def run (config : Config) (doc : Document) : Except Problem Report × Stage :=
  let (r, stage) := (Stage.run doc).run (Stage.initial config doc)
  (r.map fun _ => stage.report, stage)

end ScreenBinding.Scenario
