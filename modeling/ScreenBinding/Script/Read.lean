import ScreenBinding.Script.Command
import ScreenBinding.Settings

/-!
# Reading declarations

The shapes in which forms, views, debug mode and start options are declared.
-/
namespace ScreenBinding
open Json Json.Shape

/-- One text or a list of texts. -/
def oneOrMany : Reader (List String) := fun n => do
  (← anything n).toItems.mapM Json.text?

def FieldSpec.read : Reader FieldSpec := fun n => do
  let t ← members ["rules", "state"] n
  return { rules := ← default t "rules" (list text) [], state := ← default t "state" oneOrMany [] }

/-- The fields of a form by key. -/
def readFormSpec : Reader (Table FieldSpec) := sorted FieldSpec.read

/-- A state patch with the surfaces that are shown. -/
def readView : Reader (Fields × Screen) := fun n => do
  let t ← members ["state", "modals", "interfaces"] n
  return (← default t "state" fields [],
    { modals := ← default t "modals" (list text) [],
      interfaces := ← default t "interfaces" (list text) [] })

def DebugConfig.read : Reader DebugConfig := fun n => do
  let t ← members ["offline", "latency_ms", "testing"] n
  let d : DebugConfig := {}
  return { offline := ← default t "offline" (optional fields) none,
           latencyMs := ← default t "latency_ms" natural d.latencyMs,
           testing := ← default t "testing" (optional fields) none }

def StartOptions.read : Reader StartOptions := fun n => do
  let t ← members ["debug", "warn", "live"] n
  return { debug := ← default t "debug" (optional DebugConfig.read) none,
           warn := ← default t "warn" flag false,
           live := ← default t "live" flag false }

end ScreenBinding
