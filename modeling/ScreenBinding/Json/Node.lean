import ScreenBinding.Json.Basic

/-!
# JSON as written

The tree of a JSON text before it becomes a value. Repeated fields are still there, and so are
numbers out of range and texts with half a surrogate pair (`none`), which are harmless as long as
nobody looks at them. Containers know how deeply they are nested.
-/
namespace ScreenBinding.Json

inductive Node where
  | null
  | bool (b : Bool)
  | number (n : Option Number)
  | string (s : Option String)
  | array (depth : Nat) (items : List Node)
  /-- A list that may go on behind what a record takes of it. -/
  | loose (items : List Node)
  | object (depth : Nat) (fields : List (Option String × Node))
  deriving Inhabited

/-- Values nest at most this deep. -/
def maxDepth : Nat := 127

namespace Node

mutual
/-- The value, with repeated fields merged. -/
def toJson : Node → Option Json
  | null => some .null
  | bool b => some (.bool b)
  | number n => n.map .number
  | string s => s.map .string
  | array d items => if d ≤ maxDepth then (toItems items).map .array else none
  | loose items => (toItems items).map .array
  | object d fields => if d ≤ maxDepth then (toFields [] fields).map .object else none
def toItems : List Node → Option (List Json)
  | [] => some []
  | v::vs => do return (← v.toJson)::(← toItems vs)
def toFields (acc : List (String × Json)) : List (Option String × Node) → Option (List (String × Json))
  | [] => some acc
  | (k, v)::fs => do toFields (Table.put acc (← k) (← v.toJson)) fs
end

mutual
/-- A value as it would be written. -/
def ofJson : Json → Node
  | .null => null
  | .bool b => bool b
  | .number n => number (some n)
  | .string s => string (some s)
  | .array items => array 0 (ofItems items)
  | .object fields => object 0 (ofFields fields)
def ofItems : List Json → List Node
  | [] => []
  | v::vs => ofJson v::ofItems vs
def ofFields : List (String × Json) → List (Option String × Node)
  | [] => []
  | (k, v)::fs => (some k, ofJson v)::ofFields fs
end

end Node
end ScreenBinding.Json
