import ScreenBinding.Fault

/-!
# Directives

A directive names a state key behind at most two symbols, one for the direction of a binding and
one for what it does, in either order. The first character that is no symbol, or that belongs to a
class already seen, starts the key; there is no malformed directive.
-/
namespace ScreenBinding

/-- The direction of a binding. -/
inductive Trigger where
  /-- From the field to the state. -/
  | save
  /-- From the state to the field. -/
  | load
  deriving DecidableEq, Inhabited

namespace Trigger

/-- Both directions, in the order in which they are wired. -/
def both : List Trigger := [save, load]

def name : Trigger → String
  | save => "save"
  | load => "load"

def named : String → Except Fault Trigger
  | "save" => .ok save
  | "load" => .ok load
  | other => .error (.unknownTrigger other)

def symbol? : Char → Option (List Trigger)
  | '>' => some [save]
  | '<' => some [load]
  | '*' => some both
  | _ => none

end Trigger

/-- What a binding does with the value it carries. -/
inductive Operator where
  | assign
  | count
  | merge
  | first
  | default
  deriving DecidableEq, Inhabited

namespace Operator

def name : Operator → String
  | assign => "assign"
  | count => "count"
  | merge => "merge"
  | first => "first"
  | default => "default"

def symbol? : Char → Option Operator
  | '=' => some assign
  | '#' => some count
  | '~' => some merge
  | '^' => some first
  | '?' => some default
  | _ => none

end Operator

structure Directive where
  key : String
  triggers : List Trigger
  operators : List Operator
  deriving DecidableEq

namespace Directive

/-- The symbols read so far. -/
structure Marks where
  triggers : Option (List Trigger) := none
  operator : Option Operator := none

/-- Takes up a symbol of a class not seen before. -/
def Marks.take? (m : Marks) (c : Char) : Option Marks :=
  match m.triggers, Trigger.symbol? c with
  | none, some ts => some { m with triggers := some ts }
  | _, _ =>
      match m.operator, Operator.symbol? c with
      | none, some o => some { m with operator := some o }
      | _, _ => none

/-- Takes up at most `n` symbols and leaves the key. -/
def scan : Nat → Marks → List Char → Marks × List Char
  | 0, m, s => (m, s)
  | _+1, m, [] => (m, [])
  | n+1, m, c::s =>
      match m.take? c with
      | some m => scan n m s
      | none => (m, c::s)

def parse (s : String) : Directive :=
  let (m, key) := scan 2 {} s.toList
  { key := String.ofList key, triggers := m.triggers.getD Trigger.both,
    operators := [m.operator.getD .assign] }

def appliesTo (d : Directive) (t : Trigger) : Bool := d.triggers.contains t

end Directive
end ScreenBinding
