import ScreenBinding.Address
import ScreenBinding.Separators

/-!
# Validation rules

A value is checked against a list of rules, all of which have to hold; `optional` lets an empty
value pass outright, and a text that is no rule never holds.
-/
namespace ScreenBinding

inductive Rule where
  | optional
  /-- The text of the value is this one. -/
  | equal (text : String)
  /-- The text of the value is that of another field. -/
  | equalRef (name : String)
  | minLen (n : Nat)
  | maxLen (n : Nat)
  | email
  /-- Every item is an address. -/
  | emails
  | unknown (text : String)
  deriving DecidableEq

namespace Rule

/-- Cuts a text at its first colon. -/
def cut : List Char → List Char × Option (List Char)
  | [] => ([], none)
  | c::s => if c = ':' then ([], some s) else let (l, r) := cut s; (c::l, r)

/-- Decimal digits below `2^64`, with an optional plus sign. -/
def natural? (s : List Char) : Option Nat :=
  let ds := match s with
    | '+'::r => r
    | r => r
  if ds = [] ∨ ds.any (!·.isDigit) then none
  else
    let n := ds.foldl (fun n c => 10*n+(c.toNat - '0'.toNat)) 0
    if n < UInt64.size then some n else none

def length? (arg : Option (List Char)) : Option Nat :=
  arg.bind fun a => natural? (Text.trim a)

def parse (text : String) : Rule :=
  let (name, arg) := cut text.toList
  match String.ofList name, arg with
  | "optional", _ => optional
  | "equal", some a => equal (String.ofList a)
  | "equalRef", some a => equalRef (String.ofList a)
  | "minLen", a => ((length? a).map minLen).getD (unknown text)
  | "maxLen", a => ((length? a).map maxLen).getD (unknown text)
  | "email", _ => email
  | "emails", _ => emails
  | _, _ => unknown text

def isEmail (text : String) : Bool := Address.accepts text.toList

/-- Whether the rule holds of a value; `refs` holds the values of the other fields. -/
def holds (sep : Separators) (refs : Fields) (value : Json) : Rule → Bool
  | optional => true
  | equal text => sep.textOf value = text
  | equalRef name => (Table.find? refs name).any (sep.textOf · = sep.textOf value)
  | minLen n => n ≤ (sep.textOf value).length
  | maxLen n => (sep.textOf value).length ≤ n
  | email => isEmail (sep.textOf value)
  | emails =>
      match sep.listOf value with
      | .ok items => items.all isEmail
      | .error _ => false
  | unknown _ => false

end Rule

/-- Whether a value satisfies a list of rules. -/
def validate (sep : Separators) (refs : Fields) (value : Json) (rules : List String) : Bool :=
  let rules := rules.map Rule.parse
  (rules.contains .optional && !value.truthy) || rules.all (Rule.holds sep refs value)

/-- The names whose value in `refs` fails its rules, in the order of the table. -/
def invalidNames (sep : Separators) (refs : Fields) (rules : Table (List String)) : List String :=
  (rules.filter fun (name, list) =>
    !validate sep refs ((Table.find? refs name).getD .null) list).map Prod.fst

end ScreenBinding
