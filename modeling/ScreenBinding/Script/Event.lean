import ScreenBinding.Script.Command
import ScreenBinding.Settings

/-!
# Events and outcomes

What a session does is recorded as a list of events; the transcript of a console shows those among
them that a user would see. Requests end in outcomes.
-/
namespace ScreenBinding

inductive SubmitOutcome where
  /-- These names failed validation. -/
  | invalid (names : List String)
  /-- The hook refused. -/
  | rejected
  | submitted (response : Json)
  | failed (why : Fault)
  /-- Valid data for the host to submit. -/
  | native (data : Fields)

inductive RemoteOutcome where
  | success (value : Json)
  | failure (why : Fault)

inductive ReloadOutcome where
  /-- The response was written. -/
  | applied
  /-- A newer reload was issued meanwhile. -/
  | superseded
  | failed
  deriving DecidableEq

def ReloadOutcome.name : ReloadOutcome → String
  | applied => "ok"
  | superseded => "superseded"
  | failed => "failed"

/-- What a command or a step answers. -/
inductive Answer where
  | nothing
  | value (v : Json)
  /-- The value before a write, if there was one. -/
  | previous (old : Option Json)
  | submitted (outcome : SubmitOutcome)
  | called (outcome : RemoteOutcome)
  | reloaded (outcome : ReloadOutcome)

inductive Event where
  /-- A value was stored, before any listener hears of it. -/
  | stored (key : String) (value : Json) (source : Option Source)
  /-- The journal, a listener to every write, heard of one. -/
  | wrote (key : String) (value : Json) (source : Option Source)
  | heard (label : String) (key : String) (value : Json) (source : Option Source)
  | observed (label : String) (value : Json) (loading : Bool)
  | evaluated (label : String) (key : String) (value : Option Json) (field : Json)
      (source : Option Source)
  | connected (label : String) (directive key : String) (field : Option String)
      (source : Option Source)
  | noted (text : String)
  -- requests
  /-- `scripted` tells the transport of a script from the others. -/
  | sent (scripted : Bool) (verb : Verb) (url : String) (data : Json)
  | answered (answer : Except TransportFault Json)
  | polled (id : String) (value : Json)
  | finished (id : String) (result : Except Fault Answer)
  -- hooks
  | initialised (names : List String)
  | injected (data : Fields)
  /-- The hook before a submission has decided. -/
  | ruled (accepted : Bool)
  | succeeded (response : Json)
  | failed
  | prepared (name : String) (isModal : Bool)
  | refreshed (name : String) (args : Fields)
  -- the renderer
  | modalOpened (element : ElementRef) (label : String)
  | modalsClosed
  | interfaceShown (element : ElementRef) (label : String)
  | interfacesHidden
  | textFilled (element : ElementRef) (label slot text : String)
  | listFilled (element : ElementRef) (label slot : String) (items : List String)
  -- the notifier
  | message (text : String) (important : Bool)
  | error (text : String)
  | messageHidden
  | lockShown
  | lockReleased
  -- the script
  | said (line : String)

/-- The line that a console shows for an event, if a user would see it. -/
def Event.console? (s : Settings) : Event → Option String
  | modalOpened _ label => some ("modal open: " ++ label)
  | modalsClosed => some "modals closed"
  | interfaceShown _ label => some ("interface shown: " ++ label)
  | interfacesHidden => some "interfaces hidden"
  | textFilled _ label slot text => some (label ++ "." ++ slot ++ " = " ++ text)
  | listFilled _ label slot items =>
      some (label ++ "." ++ slot ++ " = [" ++ ", ".intercalate items ++ "]")
  | message text important =>
      some ("[" ++ (if important then s.messages.important else s.messages.information) ++ "] " ++
        text)
  | error text => some ("[" ++ s.messages.important ++ "] " ++ text)
  | messageHidden => some "message hidden"
  | lockShown => some ("lock: " ++ s.loading.message)
  | lockReleased => some "lock released"
  | said line => some line
  | _ => none

end ScreenBinding
