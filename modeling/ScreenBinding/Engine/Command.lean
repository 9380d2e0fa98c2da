import ScreenBinding.Engine.Call

/-!
# Carrying out commands

Each command in terms of the acts of the engine, with its answer as a value.
-/
namespace ScreenBinding

namespace Session

/-- The name of a source: forms go by the name that the script gave them. -/
def sourceName (s : Session) (x : Source) : String :=
  match s.forms.find? (·.source = x) with
  | some f => "form:" ++ f.name
  | none => x.text

def formNamed (s : Session) (name : String) : Form :=
  (s.forms.find? (·.name = name)).getD default

/-- What the host shows before it leaves. -/
def unloadWarning (s : Session) : Option String :=
  if s.warns && s.isDirty then some s.settings.states.unsaved else none

def DebugMode.name : DebugMode → String
  | .off => "off"
  | .debug => "debug"
  | .offline => "offline"

def textOrNull (t : Option String) : Json := (t.map Json.string).getD .null

def status (s : Session) : Json :=
  .object [("dirty", .bool s.isDirty), ("unload", textOrNull s.unloadWarning),
    ("debug", .bool (s.debugMode ≠ .off)), ("offline", .bool (s.debugMode = .offline)),
    ("mode", .string (DebugMode.name s.debugMode)), ("loading", .bool (0 < s.loading))]

/-- An element as its user sees it. -/
def look (s : Session) (e : ElementRef) : Json :=
  let x := s.element e
  .object [("value", x.value), ("classes", .texts x.classes), ("disabled", .bool x.disabled)]

/-- The id of an element, or its name. -/
def handle (s : Session) (e : ElementRef) : Json :=
  let x := s.element e
  textOrNull (x.id <|> x.name)

def formInfo (s : Session) (f : Form) : Json :=
  let stem := (f.source.text.toList.reverse.dropWhile (· ≠ '#')).reverse.dropLast
  .object [("names", .texts (f.names s)), ("size", .whole f.elements.length),
    ("prefix", .string (String.ofList stem)), ("source", .string (s.sourceName f.source))]

def formField (s : Session) (f : Form) (key : String) : Json :=
  match f.findField s key with
  | none => .null
  | some e =>
      let place := match (f.fields s).idxOf? e with
        | some i => .whole i
        | none => .null
      .array [s.handle e, (s.element e).value, place]

def surfaceNames (s : Session) (name : String) : Json :=
  let found := fun kind => match Table.find? (s.surfaces kind) name with
    | some x => s.handle x.element
    | none => .null
  .object [("modals", .texts (Table.keys s.modals)),
    ("interfaces", .texts (Table.keys s.interfaces)), ("modes", .texts (Table.keys s.modes)),
    ("found", .array [found .modal, found .interface])]

end Session

def specJson (spec : Table (List String)) : Json := .object (spec.map fun (k, ds) => (k, .texts ds))

namespace Act

/-- The given spec, or that of the defined form. -/
def specOr (form : String) : Option (Table (List String)) → Act (Table (List String))
  | some spec => return spec
  | none => do return ((Table.find? (← gets (·.boundForms)) form).map (·.state)).getD []

def boundForm (name : String) : Act BoundForm := do
  return (Table.find? (← gets (·.boundForms)) name).getD default

def triggerNamed (name : String) : Act Trigger := ofExcept (Trigger.named name)

/-- The host's words for the renderer: `open` and `close`. -/
def bridgeModal (method : String) (target : Option ElementRef) : Act Unit := do
  needRenderer
  match method, target with
  | "close", _ => emit .modalsClosed
  | "open", some e => emit (.modalOpened e (← element e).label)
  | "open", none => throw (.requirementMissing .modalElement)
  | _, _ => throw (.unknownModalCommand method)

def bridgeMessage (method text : String) (important : Bool) : Act Unit := do
  let e ← match method with
    | "show" => pure (.message text important)
    | "error" => pure (.error text)
    | "hide" => pure .messageHidden
    | _ => throw (.unknownMessageCommand method)
  needNotifier
  emit e

def bridgeLock (method : String) : Act Unit := do
  let e ← match method with
    | "show" => pure .lockShown
    | "hide" => pure .lockReleased
    | _ => throw (.unknownLockCommand method)
  needNotifier
  emit e

def runState : StateCommand Command → Act Answer
  | .set key v source => do return .previous (← write key v source)
  | .merge key v source => do
      merge key v source
      return .value (← gets fun s => (Table.find? s.values key).getD .null)
  | .bulk values source => do
      writeAll values source
      return .nothing
  | .get key other => return .value (← gets fun s => (Table.find? s.values key).getD other)
  | .has key => return .value (.bool (← gets fun s => Table.has s.values key))
  | .list key => do return .value (.texts (← getList key))
  | .snapshot => return .value (.object (← gets (·.values)))
  | .listenerCount key => return .value (.whole (← gets (·.listenersOf key)).length)
  | .listen keys label actions => do
      listen keys (.report label actions)
      return .nothing
  | .dirty => do
      change fun s => { s with isDirty := true }
      return .nothing
  | .clean => do
      change fun s => { s with isDirty := false }
      return .nothing
  | .status => return .value (← gets (·.status))
  | .option path => do return .value (← ofExcept ((← gets (·.settings)).option path))

def runElement : ElementCommand Command → Act Answer
  | .type e text => do
      type e text
      return .nothing
  | .click e => do
      click e
      return .nothing
  | .raise e event => do
      raise e event
      return .nothing
  | .watch e event label actions => do
      onEvent e event (.watch label actions)
      return .nothing
  | .put e v => do
      put e v
      return .nothing
  | .poke e text => do
      modify e fun x => { x with control := x.control.poke text }
      return .nothing
  | .disable e v => do
      modify e fun x => { x with disabled := v }
      return .nothing
  | .setClass e name v => do
      modify e fun x => if v then x.addClass name else x.removeClass name
      return .value (.texts (← element e).classes)
  | .look e => return .value (← gets (·.look e))

def runRelation : RelationCommand Command → Act Answer
  | .execute trigger directives v e source => do
      executeAll (← triggerNamed trigger) v e source directives
      return .nothing
  | .connect trigger directives e source => do
      connectAll (← triggerNamed trigger) directives e source
      return .nothing
  | .evaluator t o label actions => do
      change fun s => { s with evaluators := ((t, o), .scripted label actions)::s.evaluators }
      return .nothing
  | .connector t label => do
      change fun s => { s with connectors := (t, label)::s.connectors }
      return .nothing

def runForm : FormCommand Command → Act Answer
  | .group name elements => do
      discard (newForm name elements)
      return .nothing
  | .define name elements spec options => do
      let b ← defineForm (← newForm name elements) spec options
      change fun s => { s with boundForms := Table.put s.boundForms name b }
      return .value (specJson b.state)
  | .info form => return .value (← gets fun s => s.formInfo (s.formNamed form))
  | .data form => return .value (.object (← gets fun s => (s.formNamed form).data s))
  | .names form => return .value (.texts (← gets fun s => (s.formNamed form).names s))
  | .find form selector => return .value (.array (← gets fun s =>
      ((s.formNamed form).find s (Selector.parse selector)).map s.handle))
  | .field form key => return .value (← gets fun s => s.formField (s.formNamed form) key)
  | .connect form spec both => do
      connectForm (← gets (·.formNamed form)) (← specOr form spec) both
      return .nothing
  | .save form spec => do
      saveForm (← gets (·.formNamed form)) (← specOr form spec)
      return .nothing
  | .load form spec => do
      loadForm (← gets (·.formNamed form)) (← specOr form spec)
      return .nothing
  | .restore form => do
      restoreForm (← boundForm form)
      return .nothing
  | .check form e => do return .value (.bool (← checkField (← boundForm form) e))

def runSurface : SurfaceCommand Command → Act Answer
  | .define kind name e behavior => do
      change (·.defineSurface kind name ⟨e, behavior, none⟩)
      return .nothing
  | .names name => return .value (← gets (·.surfaceNames name))
  | .kinds => return .value (.array
      ([SurfaceKind.modal, .interface].map fun k => .texts [k.name, k.name]))
  | .prepare kind => do
      match kind with
      | some k => prepareAll k
      | none => prepareViews
      return .nothing
  | .show kind name args => do return .value (.bool (← showSurface kind name args none))
  | .hide kind => do
      match kind with
      | some k => hideAll k
      | none => hideViews
      return .nothing
  | .respond .modal name accepted => do return .value (.bool (← respondModal name accepted))
  | .respond .interface name accepted => do
      return .value (.bool (← respond .interface name accepted))
  | .mode name patch screen logic => do
      change fun s => { s with modes := Table.file s.modes name ⟨name, patch, screen, logic⟩ }
      return .nothing
  | .getMode name => do
      match Table.find? (← gets Session.modes) name with
      | some m => return .value (.array [.string m.name, .object m.patch])
      | none => return .nothing
  | .applyMode name => do
      applyMode (← mode name)
      return .nothing

def runHost : HostCommand → Act Answer
  | .note text => do
      emit (.noted text)
      return .nothing
  | .fail text => throw (.unknownOption text)
  | .malformed => throw .malformed
  | .route method => do
      let r ← route method
      return .value (.texts [r.verb.name, r.url])
  | .debug config => do
      enableDebug config
      return .nothing
  | .poll id method data => do
      let task ← poll method data (.log id)
      change fun s => { s with taskIds := Table.put s.taskIds id task }
      return .nothing
  | .abort id => do
      change fun s => match Table.find? s.taskIds id with
        | some task => s.abort task
        | none => s
      return .nothing
  | .live => do
      live
      return .nothing
  | .install .renderer => do
      change fun s => { s with renderer := true }
      return .nothing
  | .install .notifier => do
      change fun s => { s with notifier := true }
      return .nothing
  | .install .transport => do
      change fun s => { s with transport := some .scripted }
      return .nothing
  | .modal method e => do
      bridgeModal method e
      return .nothing
  | .message method text important => do
      bridgeMessage method text important
      return .nothing
  | .lock method => do
      bridgeLock method
      return .nothing

def run : Command → Act Answer
  | .state c => runState c
  | .element c => runElement c
  | .relation c => runRelation c
  | .form c => runForm c
  | .surface c => runSurface c
  | .host c => runHost c

/-- Commands in order, up to the first fault. -/
def runAll (commands : List Command) : Act Unit := do
  for c in commands do
    discard (run c)

end Act
end ScreenBinding
