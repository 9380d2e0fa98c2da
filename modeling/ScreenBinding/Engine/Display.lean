import ScreenBinding.Difference
import ScreenBinding.Engine.Field

/-!
# Showing surfaces

Modals and interfaces by name. A surface is refreshed before it is shown, which may veto it; then
all surfaces of its kind are hidden and it is shown alone. Confirm and alert surfaces keep the
question that waits for their response; a later question takes its place.
-/
namespace ScreenBinding

namespace Session

def surfaces (s : Session) : SurfaceKind → Table Surface
  | .modal => s.modals
  | .interface => s.interfaces

def setSurfaces (s : Session) (kind : SurfaceKind) (t : Table Surface) : Session :=
  match kind with
  | .modal => { s with modals := t }
  | .interface => { s with interfaces := t }

/-- Puts a question in front of a surface; the one that waited there is dropped. -/
def ask (s : Session) (kind : SurfaceKind) (name : String) (ticket : Option Ticket) : Session :=
  let old := (Table.find? (s.surfaces kind) name).bind (·.pending)
  (s.setSurfaces kind
    (Table.adjust (fun x => { x with pending := ticket }) (s.surfaces kind) name)).drop old

/-- Defines or replaces a surface; a question to the one replaced is dropped. -/
def defineSurface (s : Session) (kind : SurfaceKind) (name : String) (x : Surface) : Session :=
  let old := (Table.find? (s.surfaces kind) name).bind (·.pending)
  (s.setSurfaces kind (Table.file (s.surfaces kind) name x)).drop old

end Session

namespace Act

def surface (kind : SurfaceKind) (name : String) : Act Surface := do
  match Table.find? (← gets (·.surfaces kind)) name with
  | some x => return x
  | none => throw (.unknownSurface kind name)

/-- The class that marks surfaces of a kind. -/
def surfaceClass (kind : SurfaceKind) : Act String := do
  let types ← gets (·.settings.types)
  return match kind with
    | .modal => types.modal
    | .interface => types.interface

def prepareSurface (name : String) (x : Surface) : Act Unit := do
  match x.behavior with
  | .hooks (some actions) _ _ =>
      emit (.prepared name ((← element x.element).hasClass (← surfaceClass .modal)))
      react (.script actions)
  | _ => return ()

/-- Marks and prepares every surface of a kind, in order of names. -/
def prepareAll (kind : SurfaceKind) : Act Unit := do
  let name ← surfaceClass kind
  for (n, x) in ← gets (·.surfaces kind) do
    modify x.element (·.addClass name)
    prepareSurface n x

def fillText (e : ElementRef) (slot text : String) : Act Unit := do
  emit (.textFilled e (← element e).label slot text)

def fillList (e : ElementRef) (slot : String) (items : List String) : Act Unit := do
  emit (.listFilled e (← element e).label slot items)

def listArgument (args : Fields) (key : String) : Act (List String) := do
  match Table.find? args key with
  | none | some .null => return []
  | some v => ofExcept ((← separators).listOf v)

def textArgument (args : Fields) (key other : String) : String :=
  ((Table.find? args key).bind Json.text?).getD other

/-- Answers a question at once. -/
def answer (ticket : Option Ticket) (accepted : Bool) : Act Unit :=
  change fun s => match ticket with
    | some t => s.resolve t accepted
    | none => s

/-- Shows the difference of two lists; without one the question is answered with yes. -/
def refreshConfirm (kind : SurfaceKind) (name : String) (x : Surface) (args : Fields)
    (ticket : Option Ticket) : Act Bool := do
  let d := Difference.between (← listArgument args "previous") (← listArgument args "next")
  if d.isEmpty then
    answer ticket true
    return false
  let empty := textArgument args "empty_message" "No changes."
  let orEmpty := fun items : List String => if items.isEmpty then [empty] else items
  let slots ← gets (·.settings.changes)
  needRenderer
  fillText x.element slots.addedCount (toString d.added.length)
  fillText x.element slots.removedCount (toString d.removed.length)
  fillList x.element slots.added (orEmpty d.added)
  fillList x.element slots.removed (orEmpty d.removed)
  change (·.ask kind name ticket)
  return true

def refreshAlert (kind : SurfaceKind) (name : String) (x : Surface) (args : Fields)
    (ticket : Option Ticket) : Act Bool := do
  let slots ← gets (·.settings.alert)
  needRenderer
  fillText x.element slots.title (textArgument args "title" "New Alert")
  fillText x.element slots.message (textArgument args "message" "")
  change (·.ask kind name ticket)
  return true

/-- Whether the surface may be shown. A surface that takes no questions drops them. -/
def refresh (kind : SurfaceKind) (name : String) (x : Surface) (args : Fields)
    (ticket : Option Ticket) : Act Bool := do
  match x.behavior with
  | .confirm => refreshConfirm kind name x args ticket
  | .alert => refreshAlert kind name x args ticket
  | .hooks _ (some actions) needs => do
      emit (.refreshed name args)
      react (.script actions)
      return needs.all fun key => (Table.find? args key).any Json.truthy
  | .hooks _ none _ => return true

def hideAll (kind : SurfaceKind) : Act Unit := do
  needRenderer
  emit (match kind with
    | .modal => .modalsClosed
    | .interface => .interfacesHidden)

/-- Shows `name` alone, unless its refresh vetoes. -/
def showSurface (kind : SurfaceKind) (name : String) (args : Fields) (ticket : Option Ticket) :
    Act Bool := do
  let x ← surface kind name
  if ← refresh kind name x args ticket then
    needRenderer
    hideAll kind
    let label := (← element x.element).label
    emit (match kind with
      | .modal => .modalOpened x.element label
      | .interface => .interfaceShown x.element label)
    return true
  else return false

/-- Saves or cancels; says whether somebody waited for it. -/
def respond (kind : SurfaceKind) (name : String) (accepted : Bool) : Act Bool := do
  let x ← surface kind name
  match x.pending with
  | some t =>
      change fun s => (s.setSurfaces kind
        (Table.adjust (fun x => { x with pending := none }) (s.surfaces kind) name)).resolve t
          (accepted || x.behavior matches .alert)
      return true
  | none => return false

def respondModal (name : String) (accepted : Bool) : Act Bool := do
  let resumed ← respond .modal name accepted
  hideAll .modal
  return resumed

def hideViews : Act Unit := do
  hideAll .modal
  hideAll .interface

def prepareViews : Act Unit := do
  prepareAll .interface
  prepareAll .modal

/-- Asks a modal; the ticket stands for the answer. -/
def question (name : String) (args : Fields) : Act Ticket := do
  let ticket ← gets (·.nextTicket)
  change (·.freshTicket)
  discard (showSurface .modal name args (some ticket))
  -- a surface that has not taken the question drops it
  change fun s =>
    if (Table.find? s.modals name).any (·.pending = some ticket)
      || s.answers.any (·.1 = ticket) then s else s.resolve ticket false
  return ticket

def askConfirm (name : String) (previous next : Json) : Act Ticket :=
  question name [("previous", previous), ("next", next)]

def askAlert (name title message : String) : Act Ticket :=
  question name [("title", .string title), ("message", .string message)]

end Act
end ScreenBinding
