import ScreenBinding.Settings
import ScreenBinding.Toml.Document

/-!
# Configuration

Settings and the transport's options, from a record with defaults throughout.
-/
namespace ScreenBinding
open Json Json.Shape

structure TransportConfig where
  /-- Stands before relative URLs. -/
  baseUrl : String := ""
  timeoutSecs : Nat := 30
  deriving DecidableEq, Inhabited

def TransportConfig.read : Reader TransportConfig := fun n => do
  let t ← members ["base_url", "timeout_secs"] n
  let d : TransportConfig := {}
  return { baseUrl := ← default t "base_url" text d.baseUrl,
           timeoutSecs := ← default t "timeout_secs" natural d.timeoutSecs }

structure Config where
  settings : Settings := {}
  transport : TransportConfig := {}
  deriving DecidableEq, Inhabited

namespace Config

def read : Reader Config := fun n => do
  let t ← members ["settings", "transport"] n
  return { settings := ← default t "settings" Settings.read {},
           transport := ← default t "transport" TransportConfig.read {} }

/-- Reads the text of a configuration. -/
def parse? (text : String) : Option Config := do read (← Toml.node? text)

def toJson (c : Config) : Json :=
  .object [("settings", c.settings.toJson),
    ("transport", .object [("base_url", .string c.transport.baseUrl),
      ("timeout_secs", .whole c.transport.timeoutSecs)])]

def timeoutMs (c : Config) : Nat := 1000*c.transport.timeoutSecs

end Config
end ScreenBinding
