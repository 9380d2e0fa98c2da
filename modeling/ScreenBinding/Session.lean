import ScreenBinding.Script.Event

/-!
# Sessions

The whole state of a running application: the stored values with their listeners, the elements
with their handlers, forms, surfaces and modes, the tasks that wait, and the trace of what has
happened. Callbacks are data, so that a session is a value.
-/
namespace ScreenBinding

/-- A group of elements. Its source stands behind every write it makes. -/
structure Form where
  name : String
  source : Source
  elements : List ElementRef
  deriving Inhabited

/-- A form with its rules, its directives and its options. -/
structure BoundForm where
  form : Form
  rules : Table (List String)
  state : Table (List String)
  options : FormOptions Command
  deriving Inhabited

/-- Called on every write of a key. -/
inductive Listener where
  /-- Shows what was written, unless its own source wrote it. -/
  | load (directive : String) (field : ElementRef) (source : Option Source)
  | journal
  | report (label : String) (actions : List Command)
  | silent

/-- Called on an event of an element. -/
inductive Handler where
  | save (directive : String) (source : Option Source)
  | watch (label : String) (actions : List Command)
  | restore (form : BoundForm)
  | submit (form : BoundForm)
  | check (form : BoundForm)

structure Registration where
  element : ElementRef
  event : EventKind
  handler : Handler

/-- One read or write step of a binding. -/
inductive Evaluator where
  | saveAssign
  | saveMerge
  | loadAssign
  | loadCount
  | loadFirst
  | loadDefault
  | scripted (label : String) (actions : List Command)

/-- The evaluators there are from the start; no other pair does anything. -/
def Evaluator.standard : Trigger → Operator → Option Evaluator
  | .save, .assign => some saveAssign
  | .save, .merge => some saveMerge
  | .load, .assign => some loadAssign
  | .load, .count => some loadCount
  | .load, .first => some loadFirst
  | .load, .default => some loadDefault
  | _, _ => none

/-- A question to the user; whoever asked waits for the answer. -/
abbrev Ticket := Nat

structure Surface where
  element : ElementRef
  behavior : Behavior Command
  pending : Option Ticket := none
  deriving Inhabited

/-- A state patch with logic; a view arranges its screen before the logic. -/
structure Mode where
  name : String
  patch : Fields
  screen : Option Screen := none
  logic : Option (List Command) := none
  deriving Inhabited

inductive DebugMode where
  | off
  | debug
  | offline
  deriving DecidableEq, Inhabited

/-- A prepared answer to a request. -/
structure Reply where
  delay : Nat := 0
  answer : Except TransportFault Json
  deriving Inhabited

inductive Transport where
  /-- Answers from prepared replies. -/
  | scripted
  /-- Answers from canned responses after a latency. -/
  | offline (responses : Fields) (latency : Nat)
  /-- A network without servers, behind a base URL. -/
  | http (base : String)
  deriving Inhabited

/-- An answer on its way. -/
inductive Pending where
  | settled (answer : Except TransportFault Json)
  /-- Looked up when it arrives. -/
  | canned (responses : Fields) (url : String)

/-- What follows a reload. -/
inductive AfterReload where
  | answer
  | enter (mode : Mode)
  | start (url view : String) (options : StartOptions)

/-- What follows a remote call. -/
inductive AfterCall where
  | answer
  | reload (issue : Nat) (next : AfterReload)
  | submission (form : BoundForm)

structure Call where
  method : String
  options : RemoteOptions
  next : AfterCall

/-- Where the items of a subscription go. -/
inductive Sink where
  | log (id : String)
  | state
  /-- Collects this many more; the latest comes first. -/
  | collect (missing : Nat) (items : List Json)

structure Subscription where
  transport : Transport
  url : String
  data : Json
  interval : Nat
  sink : Sink

/-- Where a task goes on. -/
inductive Frame where
  | begin (step : Step)
  | cooldown (button : ElementRef)
  | cool (button : ElementRef)
  | submit (form : BoundForm)
  | subscribe (s : Subscription)
  | paused
  | swapping (name : String) (args : Fields)
  | replying (call : Call) (reply : Pending)
  | injecting (form : BoundForm) (data : Fields) (hook : Inject Command)
  | deciding (form : BoundForm) (data : Fields)
  | confirming
  | alerting
  | receiving (s : Subscription) (reply : Pending)
  | resting (s : Subscription)
  deriving Inhabited

inductive Role where
  /-- The script itself. -/
  | script
  /-- Its end is reported under an id. -/
  | spawned (id : String)
  /-- Its end is reported as a line about the answer of a confirm modal. -/
  | asking (modal : String)
  | detached

structure Task where
  id : Nat
  role : Role
  frame : Frame

structure Session where
  settings : Settings := {}
  -- what the host supplies
  renderer : Bool := false
  notifier : Bool := false
  transport : Option Transport := none
  replies : Table (List Reply) := []
  -- the state
  values : Fields := []
  /-- In order of registration. -/
  listeners : List (String × Listener) := []
  isDirty : Bool := false
  -- the elements
  elements : List Element := []
  /-- In order of registration. -/
  handlers : List Registration := []
  -- relations
  /-- Take precedence over the standard ones; the latest comes first. -/
  evaluators : List ((Trigger × Operator) × Evaluator) := []
  connectors : List (Trigger × String) := []
  /-- How many load passes are running. -/
  loading : Nat := 0
  -- forms, surfaces and modes
  /-- The latest comes first. -/
  forms : List Form := []
  boundForms : Table BoundForm := []
  modals : Table Surface := []
  interfaces : Table Surface := []
  modes : Table Mode := []
  nextSource : UInt64 := 1
  -- the application
  debugMode : DebugMode := .off
  logsState : Bool := false
  warns : Bool := false
  /-- How many reloads were issued. -/
  reloads : Nat := 0
  live : Option Nat := none
  -- tasks
  now : Nat := 0
  nextTask : Nat := 0
  nextTicket : Ticket := 0
  /-- How many waits of no time a turn passes, besides the first, before others come first. -/
  leeway : Nat := 127
  /-- Tasks that can go on, with the answer they waited for. -/
  ready : List (Task × Bool) := []
  /-- Tasks that wait until a time, in the order in which they began to. -/
  sleeping : List (Nat × Task) := []
  awaiting : List (Ticket × Task) := []
  answers : List (Ticket × Bool) := []
  /-- Tasks that were aborted; one that is running ends where it would wait. -/
  cancelled : List Nat := []
  taskIds : Table Nat := []
  /-- The latest event comes first. -/
  trace : List Event := []
  deriving Inhabited

end ScreenBinding
