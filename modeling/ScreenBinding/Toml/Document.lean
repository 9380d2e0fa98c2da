import ScreenBinding.Toml.Statement
import ScreenBinding.Json.Node

/-!
# The meaning of a configuration text

Entries and headers define a tree of tables. A key is defined once. A header may complete a table
that so far was only passed through; a dotted key may enter only tables that headers have not
defined, and an inline table is complete with its closing brace.
-/
namespace ScreenBinding.Toml
open Json

/-- How a table came into being. -/
inductive Origin where
  /-- Passed through by a header. -/
  | implicit
  /-- Named by a header. -/
  | explicit
  /-- Passed through by a dotted key. -/
  | dotted
  deriving DecidableEq

inductive Item where
  /-- A complete value. -/
  | value (n : Node)
  | table (origin : Origin) (entries : List (String × Item))
  /-- A list of tables, of which only the last one is open; the latest comes first. -/
  | tables (earlier : List (List (String × Item))) (last : List (String × Item))

abbrev Items := Table Item

namespace Items

/-- Applies `f` to the table at the end of a header's path. -/
def descend (f : Items → Option Items) : List String → Items → Option Items
  | [], t => f t
  | k::ks, t => do
      match Table.find? t k with
      | none => return t.put k (.table .implicit (← descend f ks []))
      | some (.table o inner) => return t.put k (.table o (← descend f ks inner))
      | some (.tables earlier last) => return t.put k (.tables earlier (← descend f ks last))
      | some (.value _) => none

/-- Defines a new key. -/
def define (t : Items) (key : String) (n : Node) : Option Items :=
  if Table.has t key then none else some (t.put key (.value n))

/-- Defines a dotted key. Its last table must be one that dotted keys have made. -/
def assign (key : String) (n : Node) : List String → Items → Option Items
  | [], t => t.define key n
  | k::ks, t => do
      match Table.find? t k with
      | none => return t.put k (.table .dotted (← assign key n ks []))
      | some (.table .explicit _) => none
      | some (.table o inner) =>
          if ks = [] ∧ o ≠ .dotted then none
          return t.put k (.table o (← assign key n ks inner))
      | some (.tables earlier last) =>
          if ks = [] then none
          return t.put k (.tables earlier (← assign key n ks last))
      | some (.value _) => none

/-- Takes up a header's table: a new one, or one that headers only passed through. -/
def openTable (key : String) (t : Items) : Option Items :=
  match Table.find? t key with
  | none => some (t.put key (.table .explicit []))
  | some (.table .implicit inner) => some (t.put key (.table .explicit inner))
  | _ => none

/-- Appends a table to a list of tables. -/
def openElement (key : String) (t : Items) : Option Items :=
  match Table.find? t key with
  | none => some (t.put key (.tables [] []))
  | some (.tables earlier last) => some (t.put key (.tables (last::earlier) []))
  | _ => none

end Items

mutual
def Item.toNode : Item → Node
  | .value n => n
  | .table _ entries => .object 0 (toFields entries)
  | .tables earlier last =>
      .loose ((toRecords earlier).reverse ++ [.object 0 (toFields last)])
def toFields : List (String × Item) → List (Option String × Node)
  | [] => []
  | (k, v)::es => (some k, v.toNode)::toFields es
def toRecords : List (List (String × Item)) → List Node
  | [] => []
  | t::ts => .object 0 (toFields t)::toRecords ts
end

/-- A moment is a record of its own, and no text. -/
def Scalar.toNode : Scalar → Node
  | .flag b => .bool b
  | .number n => .number (some n)
  | .moment s => .object 0 [(some "moment", .string (some s))]

mutual
def Value.toNode : Value → Option Node
  | .scalar s => some s.toNode
  | .text s => some (.string (some s))
  | .array items => do return .loose (← toNodes items)
  | .inline entries => do return (Item.table .explicit (← assignAll [] entries)).toNode
def toNodes : List Value → Option (List Node)
  | [] => some []
  | v::vs => do return (← v.toNode)::(← toNodes vs)
/-- Defines the entries of an inline table one after the other. -/
def assignAll (t : Items) : List (KeyPath × Value) → Option Items
  | [] => some t
  | (k, v)::es => do assignAll (← Items.assign k.last (← v.toNode) k.parents t) es
end

/-- The tree so far, and the table that entries go to. -/
structure Document where
  root : Items := []
  here : List String := []

namespace Document

def step (d : Document) : Statement → Option Document
  | .entry k v => do
      let n ← v.toNode
      return { d with root := ← d.root.descend (Items.assign k.last n k.parents) d.here }
  | .table k => do
      return { root := ← d.root.descend (Items.openTable k.last) k.parents,
               here := k.parents ++ [k.last] }
  | .element k => do
      return { root := ← d.root.descend (Items.openElement k.last) k.parents,
               here := k.parents ++ [k.last] }

end Document

/-- The tree of a whole text. -/
def node? (text : String) : Option Node := do
  let d ← (← statements? text).foldlM Document.step {}
  return (Item.table .explicit d.root).toNode

end ScreenBinding.Toml
