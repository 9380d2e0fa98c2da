import ScreenBinding.Fault

/-!
# Method tables

The value under `methods` maps the logical name of a remote method to a verb and a URL.
-/
namespace ScreenBinding

inductive Verb where
  | get
  | post
  deriving DecidableEq, Inhabited

namespace Verb

/-- Letters of either case are read. -/
def named (s : String) : Except Fault Verb :=
  let lower := s.toList.map Char.toLower
  if lower = "get".toList then .ok get
  else if lower = "post".toList then .ok post
  else .error (.unknownVerb s)

def name : Verb → String
  | get => "GET"
  | post => "POST"

/-- The spelling in a table. -/
def entry : Verb → String
  | get => "get"
  | post => "post"

end Verb

structure Route where
  verb : Verb
  url : String
  deriving DecidableEq

/-- Logical names with their entries, unread. -/
abbrev MethodTable := Fields

namespace MethodTable

/-- The table that a state value stands for; an unset table is empty. -/
def ofValue : Option Json → Except Fault MethodTable
  | none => .ok []
  | some .null => .ok []
  | some (.object entries) => .ok entries
  | some _ => .error (.malformedTable "methods")

def route (t : MethodTable) (name : String) : Except Fault Route :=
  match Table.find? t name with
  | none => .error (.unknownMethod name)
  | some (.array [.string verb, .string url]) => (Verb.named verb).map (⟨·, url⟩)
  | some _ => .error (.malformedTable name)

/-- The table of one method. -/
def single (name : String) (verb : Verb) (url : String) : Json :=
  .object [(name, .array [.string verb.entry, .string url])]

end MethodTable
end ScreenBinding
