import ScreenBinding.Script.Read
import ScreenBinding.Json.Reader

/-!
# Scenarios

A scenario declares elements, surfaces, modes, views, forms and bindings, tells how to start, and
lists the actions of a run with the expectations in between.
-/
namespace ScreenBinding.Scenario
open Json Json.Shape

inductive Kind where
  | input
  | checkbox
  | plain
  deriving DecidableEq

structure ElementSpec where
  id : String
  kind : Kind
  name : Option String
  classes : List String
  /-- Shown before anything is bound. -/
  value : Option Json

structure SurfaceSpec where
  element : String
  behavior : Behavior Command

/-- Directives on one element, in one direction or in both. -/
structure BindingSpec where
  element : String
  directives : List String
  trigger : Option Trigger

/-- A confirmation before a submission; `field` is `key` unless given. -/
structure ConfirmSpec where
  modal : String
  key : String
  field : Option String

structure FormScript where
  elements : List String
  spec : Table FieldSpec
  method : Option String
  modal : Bool
  restore : Bool
  error : Option String
  success : Option String
  confirm : Option ConfirmSpec
  /-- A successful submission leaves the state clean. -/
  clean : Bool

inductive Action where
  | type (element value : String)
  | click (element : String)
  | blur (element : String)
  | submit (form : String)
  | respond (modal : String) (accepted : Bool)
  | setState (key : String) (value : Json)
  | mergeState (key : String) (value : Json)
  | mode (name : String) (remote : Bool)
  | showModal (name : String) (args : Fields)
  | showInterface (name : String) (args : Fields)
  | confirm (modal : String) (previous next : Json)
  | modal (method : String) (element : Option String)
  | message (method text : String) (important : Bool)
  | lock (method : String)
  | reload
  | dirty
  | clean
  | wait (ms : Nat)
  | expect (key : String) (value : Json)
  | expectField (element : String) (value : Json)

structure Document where
  elements : List ElementSpec
  modals : Table SurfaceSpec
  interfaces : Table SurfaceSpec
  modes : Table Fields
  views : Table (Fields × Screen)
  forms : Table FormScript
  bindings : List BindingSpec
  state : Option Fields
  bootstrap : Option String
  view : String
  options : StartOptions
  actions : List Action

def kind : Reader Kind := choice [("input", .input), ("checkbox", .checkbox), ("plain", .plain)]

def trigger : Reader Trigger := choice [("save", .save), ("load", .load)]

def behavior : Reader (Behavior Command) :=
  choice [("plain", .hooks none none none), ("confirm", .confirm), ("alert", .alert)]

def ElementSpec.read : Reader ElementSpec := fun n => do
  let t ← members ["id", "kind", "name", "classes", "value"] n
  return { id := ← required t "id" text,
           kind := ← default t "kind" Scenario.kind .plain,
           name := ← default t "name" (optional text) none,
           classes := ← default t "classes" (list text) [],
           value := ← default t "value" (optional anything) none }

def SurfaceSpec.read : Reader SurfaceSpec := fun n => do
  let t ← members ["element", "behavior"] n
  return { element := ← required t "element" text,
           behavior := ← default t "behavior" Scenario.behavior (.hooks none none none) }

def BindingSpec.read : Reader BindingSpec := fun n => do
  let t ← members ["element", "directives", "trigger"] n
  return { element := ← required t "element" text,
           directives := ← required t "directives" (list text),
           trigger := ← default t "trigger" (optional Scenario.trigger) none }

def ConfirmSpec.read : Reader ConfirmSpec := fun n => do
  let t ← members ["modal", "key", "field"] n
  return { modal := ← required t "modal" text,
           key := ← required t "key" text,
           field := ← default t "field" (optional text) none }

def FormScript.read : Reader FormScript := fun n => do
  let t ← members ["elements", "spec", "method", "modal", "restore", "error", "success", "confirm",
    "clean"] n
  return { elements := ← required t "elements" (list text),
           spec := ← default t "spec" readFormSpec [],
           method := ← default t "method" (optional text) none,
           modal := ← default t "modal" flag false,
           restore := ← default t "restore" flag true,
           error := ← default t "error" (optional text) none,
           success := ← default t "success" (optional text) none,
           confirm := ← default t "confirm" (optional ConfirmSpec.read) none,
           clean := ← default t "clean" flag false }

/-- The name of an action and what is left of its record. -/
def named : Node → Option (String × Node)
  | .object d fields => do
      let keyed : List (String × Node) ← fields.mapM fun (k, n) => do return (← k, n)
      match keyed.filter (·.1 = "step") with
      | [(_, .string (some name))] =>
          let rest := keyed.filter (·.1 ≠ "step")
          -- every value is looked at, also those of no use
          let _ ← rest.mapM fun (_, n) => n.toJson
          return (name, .object d (rest.map fun (k, n) => (some k, n)))
      | _ => none
  | .array d (.string (some name)::rest) => do
      let _ ← rest.mapM Node.toJson
      return (name, .array d rest)
  | _ => none

def withMode (n : Node) : Option Action := do
  let t ← members ["name", "remote"] n
  return .mode (← required t "name" text) (← default t "remote" flag false)

/-- An action without members; as a list it has none either. -/
def bare (a : Action) : Node → Option Action
  | .array _ (_::_) => none
  | _ => some a

def Action.read : Reader Action := fun n => do
  let (name, n) ← named n
  let only := fun member : String => do
    required (← members [member] n) member text
  match name with
  | "type" =>
      let t ← members ["element", "value"] n
      return .type (← required t "element" text) (← required t "value" text)
  | "click" => return .click (← only "element")
  | "blur" => return .blur (← only "element")
  | "submit" => return .submit (← only "form")
  | "respond" =>
      let t ← members ["modal", "accepted"] n
      return .respond (← required t "modal" text) (← required t "accepted" flag)
  | "set_state" =>
      let t ← members ["key", "value"] n
      return .setState (← required t "key" text) (← required t "value" anything)
  | "merge_state" =>
      let t ← members ["key", "value"] n
      return .mergeState (← required t "key" text) (← required t "value" anything)
  | "mode" => withMode n
  | "view" => withMode n
  | "show_modal" =>
      let t ← members ["name", "args"] n
      return .showModal (← required t "name" text) (← default t "args" fields [])
  | "show_interface" =>
      let t ← members ["name", "args"] n
      return .showInterface (← required t "name" text) (← default t "args" fields [])
  | "confirm" =>
      let t ← members ["modal", "previous", "next"] n
      return .confirm (← required t "modal" text) (← required t "previous" anything)
        (← required t "next" anything)
  | "modal" =>
      let t ← members ["method", "element"] n
      return .modal (← required t "method" text) (← default t "element" (optional text) none)
  | "message" =>
      let t ← members ["method", "text", "important"] n
      return .message (← required t "method" text) (← default t "text" text "")
        (← default t "important" flag false)
  | "lock" => return .lock (← only "method")
  | "reload" => bare .reload n
  | "dirty" => bare .dirty n
  | "clean" => bare .clean n
  | "wait" => return .wait (← required (← members ["ms"] n) "ms" natural)
  | "expect" =>
      let t ← members ["key", "value"] n
      return .expect (← required t "key" text) (← required t "value" anything)
  | "expect_field" =>
      let t ← members ["element", "value"] n
      return .expectField (← required t "element" text) (← required t "value" anything)
  | _ => none

def Document.read : Reader Document := fun n => do
  let t ← members ["elements", "modals", "interfaces", "modes", "views", "forms", "bindings",
    "state", "bootstrap", "view", "options", "steps"] n
  return { elements := ← default t "elements" (list ElementSpec.read) [],
           modals := ← default t "modals" (sorted SurfaceSpec.read) [],
           interfaces := ← default t "interfaces" (sorted SurfaceSpec.read) [],
           modes := ← default t "modes" (sorted fields) [],
           views := ← default t "views" (sorted readView) [],
           forms := ← default t "forms" (sorted FormScript.read) [],
           bindings := ← default t "bindings" (list BindingSpec.read) [],
           state := ← default t "state" (optional fields) none,
           bootstrap := ← default t "bootstrap" (optional text) none,
           view := ← default t "view" text "",
           options := ← default t "options" StartOptions.read {},
           actions := ← default t "steps" (list Action.read) [] }

/-- Reads the text of a scenario. -/
def parse? (text : String) : Option Document := do Document.read (← node? text)

end ScreenBinding.Scenario
