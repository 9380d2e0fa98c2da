import ScreenBinding.Directive
import ScreenBinding.Element
import ScreenBinding.MethodTable

/-!
# Commands

What a host asks of a session. A `Command` is carried out at once; hooks and listeners of a script
are lists of commands. A `Step` may have to wait for time to pass, a reply or an answer.
-/
namespace ScreenBinding

/-- An element by its place in the session. -/
abbrev ElementRef := Nat

/-- Who wrote a value. Load bindings pass over the writes of their own source. -/
structure Source where
  text : String
  deriving DecidableEq, Inhabited

namespace Source

/-- Distinct serial numbers give distinct sources. -/
def unique (stem : String) (serial : Nat) : Source := ⟨stem ++ "#" ++ toString serial⟩

/-- Takes the next serial number. The counter is a word of 64 bits. -/
def draw (stem : String) (counter : UInt64) : Source × UInt64 :=
  (unique stem counter.toNat, counter+1)

/-- The source of what a mode writes. -/
def mode : Source := ⟨"mode"⟩

end Source

/-- Rules and directives of one form field. -/
structure FieldSpec where
  rules : List String := []
  state : List String := []
  deriving Inhabited

/-- Messages and lock of a remote call. -/
structure RemoteOptions where
  /-- Replaces the message after a success. -/
  success : Option String := none
  /-- Replaces the message after a failure. -/
  failure : Option String := none
  /-- No messages. -/
  silent : Bool := false
  /-- No lock. -/
  background : Bool := false
  deriving Inhabited

/-- Debug mode: canned responses by URL with a latency, and a patch applied at once. -/
structure DebugConfig where
  offline : Option Fields := none
  latencyMs : Nat := 3000
  testing : Option Fields := none
  deriving Inhabited

/-- Answers every request with the state. -/
def DebugConfig.offlineState : DebugConfig :=
  { offline := some [("*", .string "%state%")] }

structure StartOptions where
  debug : Option DebugConfig := none
  warn : Bool := false
  live : Bool := false
  deriving Inhabited

/-- Where the state comes from at the start. -/
inductive Seed where
  | state (values : Fields)
  | bootstrap (url : String)
  deriving Inhabited

/-- The surfaces that a view shows. -/
structure Screen where
  modals : List String := []
  interfaces : List String := []
  deriving Inhabited

/-- How the hook before a submission decides. -/
inductive Decision where
  | answer (accepted : Bool)
  /-- Asks the confirm modal to approve the change from the state under `key` to `field`. -/
  | confirm (modal key field : String)
  deriving Inhabited

/-- The hook between validation and submission. -/
structure Inject (C : Type) where
  delay : Nat := 0
  actions : List C := []
  decision : Decision := .answer true
  deriving Inhabited

structure FormOptions (C : Type) where
  /-- Hides the modals after a successful submission. -/
  modal : Bool := false
  /-- Reloads the form when it is cancelled or its submission rejected. -/
  restore : Bool := true
  /-- The remote method; without one the host submits. -/
  method : Option String := none
  /-- Shown when validation fails. -/
  error : Option String := none
  init : Option (List C) := none
  inject : Option (Inject C) := none
  onSuccess : Option (List C) := none
  onFailure : Option (List C) := none
  remote : RemoteOptions := {}
  deriving Inhabited

/-- What a surface does before it is shown. -/
inductive Behavior (C : Type) where
  /-- `needs` names an argument without which the surface is not shown. -/
  | hooks (prepare refresh : Option (List C)) (needs : Option String)
  /-- Shows the difference of two lists and waits for approval. -/
  | confirm
  /-- Shows a message until it is dismissed. -/
  | alert
  deriving Inhabited

inductive Capability where
  | renderer
  | notifier
  | transport
  deriving DecidableEq

/-- Reading and writing the state. `C` are the commands of a listener. -/
inductive StateCommand (C : Type) where
  | set (key : String) (value : Json) (source : Option Source)
  | merge (key : String) (value : Json) (source : Option Source)
  | bulk (values : Fields) (source : Option Source)
  | get (key : String) (other : Json)
  | has (key : String)
  | list (key : String)
  | snapshot
  | listenerCount (key : String)
  | listen (keys : List String) (label : String) (actions : List C)
  | dirty
  | clean
  | status
  | option (path : String)

/-- What a user or the host does to elements. -/
inductive ElementCommand (C : Type) where
  | type (element : ElementRef) (text : String)
  | click (element : ElementRef)
  | raise (element : ElementRef) (event : EventKind)
  | watch (element : ElementRef) (event : EventKind) (label : String) (actions : List C)
  | put (element : ElementRef) (value : Json)
  | poke (element : ElementRef) (text : String)
  | disable (element : ElementRef) (value : Bool)
  | setClass (element : ElementRef) (name : String) (value : Bool)
  | look (element : ElementRef)

/-- Directives, executed at once or connected. -/
inductive RelationCommand (C : Type) where
  | execute (trigger : String) (directives : List String) (value : Option Json)
      (element : ElementRef) (source : Option Source)
  | connect (trigger : String) (directives : List String) (element : ElementRef)
      (source : Option Source)
  | evaluator (trigger : Trigger) (operator : Operator) (label : String) (actions : List C)
  | connector (trigger : Trigger) (label : String)

inductive FormCommand (C : Type) where
  /-- A group of elements without rules and directives. -/
  | group (name : String) (elements : List ElementRef)
  | define (name : String) (elements : List ElementRef) (spec : Table FieldSpec)
      (options : FormOptions C)
  | info (form : String)
  | data (form : String)
  | names (form : String)
  | find (form : String) (selector : String)
  | field (form : String) (key : String)
  | connect (form : String) (spec : Option (Table (List String))) (both : Bool)
  | save (form : String) (spec : Option (Table (List String)))
  | load (form : String) (spec : Option (Table (List String)))
  | restore (form : String)
  | check (form : String) (element : ElementRef)

/-- Surfaces, and the modes that arrange them. -/
inductive SurfaceCommand (C : Type) where
  | define (kind : SurfaceKind) (name : String) (element : ElementRef) (behavior : Behavior C)
  | names (name : String)
  | kinds
  | prepare (kind : Option SurfaceKind)
  | show (kind : SurfaceKind) (name : String) (args : Fields)
  | hide (kind : Option SurfaceKind)
  /-- The modals are hidden after a response, the interfaces are not. -/
  | respond (kind : SurfaceKind) (name : String) (accepted : Bool)
  | mode (name : String) (patch : Fields) (screen : Option Screen) (logic : Option (List C))
  | getMode (name : String)
  | applyMode (name : String)

/-- Remote methods, debug mode, and what the host supplies. -/
inductive HostCommand where
  | note (text : String)
  | fail (text : String)
  /-- A declaration that could not be read. -/
  | malformed
  | route (method : String)
  | debug (config : DebugConfig)
  | poll (id : String) (method : String) (data : Json)
  | abort (id : String)
  | live
  | install (what : Capability)
  | modal (method : String) (element : Option ElementRef)
  | message (method : String) (text : String) (important : Bool)
  | lock (method : String)

inductive Command where
  | state (c : StateCommand Command)
  | element (c : ElementCommand Command)
  | relation (c : RelationCommand Command)
  | form (c : FormCommand Command)
  | surface (c : SurfaceCommand Command)
  | host (c : HostCommand)

instance : Inhabited Command := ⟨.host .malformed⟩

inductive Step where
  | now (c : Command)
  | wait (ms : Nat)
  | spawn (id : String) (step : Step)
  | submit (form : String)
  | swap (name : String) (args : Fields)
  | confirm (name : String) (previous next : Json)
  | alert (name : String) (title message : String)
  | setMode (name : String) (remote : Bool)
  | call (method : String) (data : Json) (options : RemoteOptions)
  | reload
  | start (view : String) (seed : Seed) (options : StartOptions)
  | socket (method : String) (url : String) (data : Json) (interval take : Nat)
  deriving Inhabited

end ScreenBinding
