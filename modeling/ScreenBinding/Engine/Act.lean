import ScreenBinding.Session

/-!
# Acts

An act changes a session and ends with a result, with a fault, or not at all. A fault keeps the
changes made before it. Acts that call callbacks do so through `react`, which the cascade supplies,
so that each act is defined without recursion.
-/
namespace ScreenBinding

/-- Something registered that is to run now. -/
inductive Reaction where
  | listener (l : Listener) (key : String) (value : Json) (source : Option Source)
  | handler (h : Handler) (element : ElementRef)
  | script (commands : List Command)
  /-- What a form calls before, at or after a submission. -/
  | hook (commands : List Command)

/-- `none` means that the fuel did not last. -/
abbrev Run := ExceptT Fault (StateT Session Option)

/-- How reactions are carried out. -/
abbrev React := Reaction → Run Unit

abbrev Act := ReaderT React Run

namespace Act
variable {α : Type}

def react (r : Reaction) : Act Unit := fun carry => carry r

def gets (f : Session → α) : Act α := fun _ s => some (.ok (f s), s)

def change (f : Session → Session) : Act Unit := fun _ s => some (.ok (), f s)

def ofExcept : Except Fault α → Act α
  | .ok a => pure a
  | .error f => throw f

/-- Drops a fault. -/
def attempt (a : Act Unit) : Act Unit := fun carry s =>
  (a carry s).map fun p => (.ok (), p.2)

/-- A fault becomes a value. -/
def outcome (a : Act α) : Act (Except Fault α) := fun carry s =>
  (a carry s).map fun p => (.ok p.1, p.2)

/-- Ends with a change of the session, after a fault too. -/
def ending (a : Act α) (f : Session → Session) : Act α := fun carry s =>
  (a carry s).map fun p => (p.1, f p.2)

def emit (e : Event) : Act Unit := change fun s => { s with trace := e::s.trace }

def needRenderer : Act Unit := do
  if !(← gets Session.renderer) then throw (.requirementMissing .renderer)

def needNotifier : Act Unit := do
  if !(← gets Session.notifier) then throw (.requirementMissing .notifier)

def needTransport : Act Transport := do
  match ← gets Session.transport with
  | some t => pure t
  | none => throw (.requirementMissing .transport)

def separators : Act Separators := gets (·.settings.separators)

end Act

namespace Session

/-- Resumes whoever waits for the answer to a question, now or later. -/
def resolve (s : Session) (ticket : Ticket) (answer : Bool) : Session :=
  match s.awaiting.find? (·.1 = ticket) with
  | some (_, task) =>
      { s with awaiting := s.awaiting.filter (·.1 ≠ ticket), ready := s.ready ++ [(task, answer)] }
  | none => { s with answers := (ticket, answer)::s.answers }

/-- A caller whose question is dropped gets no for an answer. -/
def drop (s : Session) : Option Ticket → Session
  | some t => s.resolve t false
  | none => s

def freshTicket (s : Session) : Session := { s with nextTicket := s.nextTicket+1 }

/-- A new task, behind those that are ready. -/
def spawn (s : Session) (role : Role) (frame : Frame) : Session :=
  { s with ready := s.ready ++ [(⟨s.nextTask, role, frame⟩, true)], nextTask := s.nextTask+1 }

/-- The task never goes on. -/
def abort (s : Session) (id : Nat) : Session :=
  { s with ready := s.ready.filter (·.1.id ≠ id), sleeping := s.sleeping.filter (·.2.id ≠ id),
           awaiting := s.awaiting.filter (·.2.id ≠ id), cancelled := id::s.cancelled }

end Session
end ScreenBinding
