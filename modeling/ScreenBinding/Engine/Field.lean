import ScreenBinding.Engine.Act

/-!
# Fields

Reading and writing elements, and the events they raise. Handlers of one event run in order of
registration; who is called is settled when the event is raised.
-/
namespace ScreenBinding

namespace Session

def element (s : Session) (e : ElementRef) : Element := s.elements.getD e {}

def handlersOf (s : Session) (e : ElementRef) (event : EventKind) : List Handler :=
  (s.handlers.filter fun r => r.element = e && r.event = event).map (·.handler)

end Session

namespace Act

def element (e : ElementRef) : Act Element := gets (·.element e)

def modify (e : ElementRef) (f : Element → Element) : Act Unit :=
  change fun s => { s with elements := s.elements.modify e f }

def onEvent (e : ElementRef) (event : EventKind) (h : Handler) : Act Unit :=
  change fun s => { s with handlers := s.handlers ++ [⟨e, event, h⟩] }

def raise (e : ElementRef) (event : EventKind) : Act Unit := do
  for h in ← gets (·.handlersOf e event) do
    react (.handler h e)

/-- Shows a value and raises a change. -/
def put (e : ElementRef) (value : Json) : Act Unit := do
  let sep ← separators
  modify e fun x => { x with control := x.control.put sep value }
  raise e .change

/-- What a user does who types a text and leaves the field. -/
def type (e : ElementRef) (text : String) : Act Unit := do
  modify e fun x => { x with control := x.control.typed text }
  raise e .change

def click (e : ElementRef) : Act Unit := do
  if !(← element e).disabled then raise e .click

/-- Shows a text in an element, for blank checks. -/
def textOf (e : ElementRef) : Act String := do
  return (← separators).textOf (← element e).value

end Act
end ScreenBinding
