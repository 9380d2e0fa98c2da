import ScreenBinding.Json.Basic

/-!
# Faults

What an operation can fail with, each by its cause. Values that fail validation are no faults:
they are shown to the user. The wording stands in `Fault.message`.
-/
namespace ScreenBinding

/-- The two categories of named surfaces. -/
inductive SurfaceKind where
  | modal
  | interface
  deriving DecidableEq, Inhabited

def SurfaceKind.name : SurfaceKind → String
  | modal => "modal"
  | interface => "interface"

/-- Something the host has to supply. -/
inductive Requirement where
  | renderer
  | notifier
  | transport
  | modalElement
  deriving DecidableEq

def Requirement.name : Requirement → String
  | renderer => "surface renderer"
  | notifier => "notifier"
  | transport => "transport"
  | modalElement => "modal element"

/-- Why a request got no answer. -/
inductive TransportFault where
  | unreachable (target : String)
  | status (code : Nat) (body : String)
  | unreadable (reason : String)
  deriving DecidableEq

def TransportFault.message : TransportFault → String
  | unreachable target => "Cannot connect to " ++ target
  | status code body => "Server returned status " ++ toString code ++ ": " ++ body
  | unreadable reason => "Parse error: " ++ reason

inductive Fault where
  | requirementMissing (what : Requirement)
  | unknownOption (path : String)
  | unknownMethod (name : String)
  | unknownTrigger (name : String)
  | unknownModalCommand (name : String)
  | unknownMessageCommand (name : String)
  | unknownLockCommand (name : String)
  | unknownSocketCommand (name : String)
  | bidirectionalForm
  | unknownMode (name : String)
  | unknownSurface (kind : SurfaceKind) (name : String)
  | unknownVerb (name : String)
  | malformedTable (entry : String)
  | listExpected
  | bootstrapFailed (url : String)
  | transport (why : TransportFault)
  /-- A declaration that does not have its shape. -/
  | malformed
  deriving DecidableEq

def Fault.message : Fault → String
  | requirementMissing what => "Requirement missing: " ++ what.name
  | unknownOption path => "Unknown option: " ++ path
  | unknownMethod name => "Unknown remote method: " ++ name
  | unknownTrigger name => "Unknown relation connector: " ++ name
  | unknownModalCommand name => "Unknown modal method: " ++ name
  | unknownMessageCommand name => "Unknown message method: " ++ name
  | unknownLockCommand name => "Unknown lock method: " ++ name
  | unknownSocketCommand name => "Unknown socket method: " ++ name
  | bidirectionalForm => "Not implemented: bidirectional form connection"
  | unknownMode name => "Unknown mode: " ++ name
  | unknownSurface kind name => "Unknown " ++ kind.name ++ ": " ++ name
  | unknownVerb name => "Unknown transport verb: " ++ name
  | malformedTable entry => "Malformed method table entry: " ++ entry
  | listExpected => "Array or string expected"
  | bootstrapFailed url => "Bootstrap failed: " ++ url
  | transport why => "Transport error: " ++ why.message
  | malformed => "Malformed declaration"

end ScreenBinding
