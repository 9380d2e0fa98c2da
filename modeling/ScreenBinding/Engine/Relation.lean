import ScreenBinding.Engine.Field
import ScreenBinding.Engine.Store

/-!
# Relations

Directives at work. An evaluator performs one read or write for a direction and an operator; a
pair without an evaluator is passed over. Connecting a directive registers a callback that executes
it later: saves on changes of the field, loads on writes of the key. While a load writes a field,
changes are not saved, so what comes out of the state never goes back into it.
-/
namespace ScreenBinding

def Session.evaluator? (s : Session) (t : Trigger) (o : Operator) : Option Evaluator :=
  match s.evaluators.find? (·.1 = (t, o)) with
  | some (_, e) => some e
  | none => Evaluator.standard t o

/-- What an evaluator looks at. -/
structure Evaluation where
  key : String
  /-- The value that the event carries. -/
  carried : Option Json
  field : ElementRef
  source : Option Source

namespace Act

/-- The carried value if it is truthy, else another. -/
def carriedOr (x : Evaluation) (other : Act Json) : Act Json :=
  match x.carried with
  | some v => if v.truthy then pure v else other
  | none => other

def fieldValue (x : Evaluation) : Act Json := carriedOr x do
  return (← element x.field).value

def stateValue (x : Evaluation) (unset : Json) : Act Json := carriedOr x do
  gets fun s => (Table.find? s.values x.key).getD unset

def stateList (x : Evaluation) : Act (List String) := do
  match ← stateValue x (.array []) with
  | .null => return []
  | v => ofExcept ((← separators).listOf v)

def evaluate (x : Evaluation) : Evaluator → Act Unit
  | .saveAssign => do discard (write x.key (← fieldValue x) x.source)
  | .saveMerge => do merge x.key (← fieldValue x) x.source
  | .loadAssign => do put x.field (← stateValue x (.string ""))
  | .loadCount => do put x.field (.whole (← stateList x).length)
  | .loadFirst => do
      match ← stateList x with
      | [] => return ()
      | a::_ => put x.field (.string a)
  | .loadDefault => do
      if (Text.trim (← textOf x.field).toList).isEmpty then
        put x.field (← stateValue x (.string ""))
  | .scripted label actions => do
      emit (.evaluated label x.key x.carried (← element x.field).value x.source)
      react (.script actions)

/-- A pair without an evaluator is passed over. -/
def evaluate? (x : Evaluation) : Option Evaluator → Act Unit
  | some e => evaluate x e
  | none => return ()

/-- Runs the operators of a directive in one direction, up to the first fault. -/
def evaluateAll (t : Trigger) (x : Evaluation) (operators : List Operator) : Act Unit := do
  for o in operators do
    evaluate? x (← gets (·.evaluator? t o))

def execute (t : Trigger) (directive : String) (carried : Option Json) (field : ElementRef)
    (source : Option Source) : Act Unit := do
  let d := Directive.parse directive
  if d.appliesTo t then
    let pass := evaluateAll t ⟨d.key, carried, field, source⟩ d.operators
    match t with
    | .save => pass
    | .load =>
        change fun s => { s with loading := s.loading+1 }
        pass.ending fun s => { s with loading := s.loading-1 }

/-- Executes all directives; the first fault counts once all have run. -/
def executeAll (t : Trigger) (carried : Option Json) (field : ElementRef)
    (source : Option Source) : List String → Act Unit
  | [] => return ()
  | d::ds => do
      let first ← outcome (execute t d carried field source)
      let rest ← outcome (executeAll t carried field source ds)
      ofExcept (match first with
        | .error f => .error f
        | .ok () => rest)

/-- Wires one directive. -/
def connect (t : Trigger) (directive : String) (field : ElementRef) (source : Option Source) :
    Act Unit := do
  let key := (Directive.parse directive).key
  match (← gets (·.connectors)).find? (·.1 = t) with
  | some (_, label) => emit (.connected label directive key (← element field).name source)
  | none =>
      match t with
      | .save => onEvent field .change (.save directive source)
      | .load => listen [key] (.load directive field source)

def connectAll (t : Trigger) (directives : List String) (field : ElementRef)
    (source : Option Source) : Act Unit := do
  for d in directives do
    connect t d field source

end Act
end ScreenBinding
