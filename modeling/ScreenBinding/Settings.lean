import ScreenBinding.Separators
import ScreenBinding.Json.Shape

/-!
# Settings

Texts, class names, times and separators that a host may override one by one. Settings are read
from a record of records in which everything has a default, and looked up by dotted paths.
-/
namespace ScreenBinding
open Json Json.Shape

/-- Texts about the state. -/
structure StateTexts where
  /-- Shown before leaving with unsaved changes. -/
  unsaved : String := "You have unsaved changes."
  deriving DecidableEq, Inhabited

def StateTexts.read : Reader StateTexts := fun n => do
  let t ← members ["unsaved"] n
  let d : StateTexts := {}
  return { unsaved := ← default t "unsaved" text d.unsaved }

def StateTexts.toJson (x : StateTexts) : Json :=
  .object [("unsaved", .string x.unsaved)]

/-- Classes that mark the actions of a form. -/
structure ActionClasses where
  save : String := "save"
  cancel : String := "cancel"
  deriving DecidableEq, Inhabited

def ActionClasses.read : Reader ActionClasses := fun n => do
  let t ← members ["save", "cancel"] n
  let d : ActionClasses := {}
  return { save := ← default t "save" text d.save,
           cancel := ← default t "cancel" text d.cancel }

def ActionClasses.toJson (x : ActionClasses) : Json :=
  .object [("save", .string x.save),
    ("cancel", .string x.cancel)]

/-- Slots of a confirm surface. -/
structure ChangeSlots where
  added : String := "added"
  addedCount : String := "added-count"
  removed : String := "removed"
  removedCount : String := "removed-count"
  deriving DecidableEq, Inhabited

def ChangeSlots.read : Reader ChangeSlots := fun n => do
  let t ← members ["added", "added_count", "removed", "removed_count"] n
  let d : ChangeSlots := {}
  return { added := ← default t "added" text d.added,
           addedCount := ← default t "added_count" text d.addedCount,
           removed := ← default t "removed" text d.removed,
           removedCount := ← default t "removed_count" text d.removedCount }

def ChangeSlots.toJson (x : ChangeSlots) : Json :=
  .object [("added", .string x.added),
    ("added_count", .string x.addedCount),
    ("removed", .string x.removed),
    ("removed_count", .string x.removedCount)]

/-- Slots of an alert surface. -/
structure AlertSlots where
  title : String := "title"
  message : String := "message"
  deriving DecidableEq, Inhabited

def AlertSlots.read : Reader AlertSlots := fun n => do
  let t ← members ["title", "message"] n
  let d : AlertSlots := {}
  return { title := ← default t "title" text d.title,
           message := ← default t "message" text d.message }

def AlertSlots.toJson (x : AlertSlots) : Json :=
  .object [("title", .string x.title),
    ("message", .string x.message)]

/-- Classes that mark surfaces. -/
structure TypeClasses where
  modal : String := "modal"
  interface : String := "interface"
  view : String := "view"
  deriving DecidableEq, Inhabited

def TypeClasses.read : Reader TypeClasses := fun n => do
  let t ← members ["modal", "interface", "view"] n
  let d : TypeClasses := {}
  return { modal := ← default t "modal" text d.modal,
           interface := ← default t "interface" text d.interface,
           view := ← default t "view" text d.view }

def TypeClasses.toJson (x : TypeClasses) : Json :=
  .object [("modal", .string x.modal),
    ("interface", .string x.interface),
    ("view", .string x.view)]

/-- Classes of messages. -/
structure MessageClasses where
  information : String := "message-info"
  inner : String := "inner"
  important : String := "important"
  deriving DecidableEq, Inhabited

def MessageClasses.read : Reader MessageClasses := fun n => do
  let t ← members ["information", "inner", "important"] n
  let d : MessageClasses := {}
  return { information := ← default t "information" text d.information,
           inner := ← default t "inner" text d.inner,
           important := ← default t "important" text d.important }

def MessageClasses.toJson (x : MessageClasses) : Json :=
  .object [("information", .string x.information),
    ("inner", .string x.inner),
    ("important", .string x.important)]

/-- The loading lock. -/
structure LoadingTexts where
  overlay : String := "loading-overlay"
  message : String := "Loading..."
  /-- Milliseconds after which a stuck lock may go. -/
  timeoutMs : Nat := 5000
  deriving DecidableEq, Inhabited

def LoadingTexts.read : Reader LoadingTexts := fun n => do
  let t ← members ["overlay", "message", "timeout_ms"] n
  let d : LoadingTexts := {}
  return { overlay := ← default t "overlay" text d.overlay,
           message := ← default t "message" text d.message,
           timeoutMs := ← default t "timeout_ms" natural d.timeoutMs }

def LoadingTexts.toJson (x : LoadingTexts) : Json :=
  .object [("overlay", .string x.overlay),
    ("message", .string x.message),
    ("timeout_ms", .whole x.timeoutMs)]

/-- Classes of checked fields. -/
structure ValidationClasses where
  good : String := "valid"
  bad : String := "error"
  deriving DecidableEq, Inhabited

def ValidationClasses.read : Reader ValidationClasses := fun n => do
  let t ← members ["good", "bad"] n
  let d : ValidationClasses := {}
  return { good := ← default t "good" text d.good,
           bad := ← default t "bad" text d.bad }

def ValidationClasses.toJson (x : ValidationClasses) : Json :=
  .object [("good", .string x.good),
    ("bad", .string x.bad)]

/-- Remote calls. -/
structure NetworkTexts where
  success : String := "Your changes have been saved."
  failure : String := "We couldn't save your changes."
  /-- Milliseconds between two polls. -/
  pollMs : Nat := 30000
  deriving DecidableEq, Inhabited

def NetworkTexts.read : Reader NetworkTexts := fun n => do
  let t ← members ["success", "failure", "poll_ms"] n
  let d : NetworkTexts := {}
  return { success := ← default t "success" text d.success,
           failure := ← default t "failure" text d.failure,
           pollMs := ← default t "poll_ms" natural d.pollMs }

def NetworkTexts.toJson (x : NetworkTexts) : Json :=
  .object [("success", .string x.success),
    ("failure", .string x.failure),
    ("poll_ms", .whole x.pollMs)]

def Separators.read : Reader Separators := fun n => do
  let t ← members ["delimiters", "joiner"] n
  let d : Separators := {}
  return { delimiters := ← default t "delimiters" text d.delimiters,
           joiner := ← default t "joiner" text d.joiner }

def Separators.toJson (x : Separators) : Json :=
  .object [("delimiters", .string x.delimiters), ("joiner", .string x.joiner)]

structure Settings where
  states : StateTexts := {}
  actions : ActionClasses := {}
  changes : ChangeSlots := {}
  alert : AlertSlots := {}
  types : TypeClasses := {}
  messages : MessageClasses := {}
  loading : LoadingTexts := {}
  validation : ValidationClasses := {}
  network : NetworkTexts := {}
  separators : Separators := {}
  deriving DecidableEq, Inhabited

namespace Settings

def read : Reader Settings := fun n => do
  let t ← members ["states", "actions", "changes", "alert", "types", "messages",
    "loading", "validation", "network", "separators"] n
  return { states := ← default t "states" StateTexts.read {},
           actions := ← default t "actions" ActionClasses.read {},
           changes := ← default t "changes" ChangeSlots.read {},
           alert := ← default t "alert" AlertSlots.read {},
           types := ← default t "types" TypeClasses.read {},
           messages := ← default t "messages" MessageClasses.read {},
           loading := ← default t "loading" LoadingTexts.read {},
           validation := ← default t "validation" ValidationClasses.read {},
           network := ← default t "network" NetworkTexts.read {},
           separators := ← default t "separators" Separators.read {} }

def toJson (s : Settings) : Json :=
  .object [("states", s.states.toJson),
    ("actions", s.actions.toJson),
    ("changes", s.changes.toJson),
    ("alert", s.alert.toJson),
    ("types", s.types.toJson),
    ("messages", s.messages.toJson),
    ("loading", s.loading.toJson),
    ("validation", s.validation.toJson),
    ("network", s.network.toJson),
    ("separators", s.separators.toJson)]

/-- The pieces of a path between its dots. -/
def segments (path : String) : List String :=
  (path.toList.splitOn '.').map String.ofList

/-- Descends into objects, one segment at a time. -/
def descend : List String → Json → Option Json
  | [], v => some v
  | k::ks, .object fields => do descend ks (← Table.find? fields k)
  | _::_, _ => none

/-- The setting under a dotted path. -/
def option (s : Settings) (path : String) : Except Fault Json :=
  match descend (segments path) s.toJson with
  | some v => .ok v
  | none => .error (.unknownOption path)

end Settings
end ScreenBinding
