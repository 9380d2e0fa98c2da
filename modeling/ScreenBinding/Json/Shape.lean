import ScreenBinding.Json.Node

/-!
# Shapes

Readers for declarations. A record may be written as an object, whose unknown fields are ignored
and whose known fields stand at most once, or as a list of its fields in order.
-/
namespace ScreenBinding.Json.Shape

/-- Reads a declaration of a given shape. -/
abbrev Reader (α : Type) := Node → Option α

/-- Any value at all. -/
def anything : Reader Json := Node.toJson

def text : Reader String
  | .string s => s
  | _ => none

def flag : Reader Bool
  | .bool b => some b
  | _ => none

/-- A natural number below `2^64`. -/
def natural : Reader Nat
  | .number (some (.whole n)) => if 0 ≤ n ∧ n < UInt64.size then some n.toNat else none
  | _ => none

def list {α : Type} (item : Reader α) : Reader (List α)
  | .array d items => if d ≤ maxDepth then items.mapM item else none
  | .loose items => items.mapM item
  | _ => none

def optional {α : Type} (content : Reader α) : Reader (Option α)
  | .null => some none
  | n => (content n).map some

/-- The entries of an object, as written. -/
def entries {α : Type} (content : Reader α) : Reader (List (String × α))
  | .object d fields =>
      if d ≤ maxDepth then fields.mapM fun (k, n) => do return (← k, ← content n) else none
  | _ => none

/-- An object as a table in the order of its keys. -/
def sorted {α : Type} (content : Reader α) : Reader (Table α) :=
  fun n => (entries content n).map Table.sorted

/-- An object as a table in the order in which it is written. -/
def fields : Reader Fields := fun n => (entries anything n).map Table.ofPairs

/-- A choice among names; a name may also be the only key of an object, over `null`. -/
def choice {α : Type} (names : List (String × α)) : Reader α
  | .string s => s.bind (Table.find? names)
  | .object _ [(k, .null)] => k.bind (Table.find? names)
  | _ => none

/-- The members of a record that are present. -/
def members (names : List String) : Reader (Table Node)
  | .object d fields => do
      let known ← fields.filterMapM fun (k, n) => do
        let k ← k
        return if names.contains k then some (k, n) else none
      if d ≤ maxDepth ∧ (Table.keys known).Nodup then some known else none
  | .array d items =>
      if d ≤ maxDepth ∧ items.length ≤ names.length then some (names.zip items) else none
  | .loose items => some (names.zip items)
  | _ => none

/-- A member that has to be there. -/
def required {α : Type} (t : Table Node) (name : String) (content : Reader α) : Option α :=
  (Table.find? t name).bind content

/-- A member with a default. -/
def default {α : Type} (t : Table Node) (name : String) (content : Reader α) (other : α) :
    Option α :=
  match Table.find? t name with
  | some n => content n
  | none => some other

end ScreenBinding.Json.Shape
