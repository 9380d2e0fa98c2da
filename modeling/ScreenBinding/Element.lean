import ScreenBinding.Separators

/-!
# Elements

What the host shows: check boxes, inputs and plain elements, each with at most one id and one name
and with a set of classes. An element's value is read and written according to its kind.
-/
namespace ScreenBinding

inductive EventKind where
  | change
  | blur
  | click
  deriving DecidableEq, Inhabited

/-- The kind of an element with its content. -/
inductive Control where
  | checkbox (checked : Bool)
  | input (text : String)
  | plain (text : String)
  deriving DecidableEq, Inhabited

namespace Control

def value : Control → Json
  | checkbox b => .bool b
  | input s => .string s
  | plain s => .string s

/-- Shows a value: check boxes its truth, all others its text. -/
def put (sep : Separators) (v : Json) : Control → Control
  | checkbox _ => checkbox v.truthy
  | input _ => input (sep.textOf v)
  | plain _ => plain (sep.textOf v)

/-- What a user who types `s` leaves behind. -/
def typed (s : String) : Control → Control
  | checkbox _ => checkbox (s ≠ "" && s ≠ "false")
  | input _ => input s
  | plain _ => plain s

/-- Writes the content as it is. -/
def poke (s : String) : Control → Control
  | checkbox _ => checkbox (s = "true")
  | input _ => input s
  | plain _ => plain s

end Control

structure Element where
  id : Option String := none
  name : Option String := none
  /-- Sorted, without repetitions. -/
  classes : List String := []
  control : Control := .plain ""
  disabled : Bool := false
  deriving DecidableEq, Inhabited

namespace Element

def value (e : Element) : Json := e.control.value

def hasClass (e : Element) (c : String) : Bool := e.classes.contains c

def insertClass (c : String) : List String → List String
  | [] => [c]
  | d::ds => if c = d then d::ds else if c < d then c::d::ds else d::insertClass c ds

def addClass (e : Element) (c : String) : Element := { e with classes := insertClass c e.classes }

def removeClass (e : Element) (c : String) : Element :=
  { e with classes := e.classes.filter (· ≠ c) }

/-- What the element is called in front of a user. -/
def label (e : Element) : String := (e.id <|> e.name).getD "<anonymous>"

end Element

/-- What names an element of a form: a class, an id, any name, or one name. -/
inductive Selector where
  | ofClass (name : String)
  | ofId (name : String)
  | anyNamed
  | named (name : String)
  /-- An attribute other than the name. -/
  | nothing
  deriving DecidableEq

namespace Selector

def isQuote (c : Char) : Bool := c = '"' || c = '\''

def unquoted (s : List Char) : List Char :=
  ((s.dropWhile isQuote).reverse.dropWhile isQuote).reverse

/-- Cuts at the first equals sign. -/
def cut : List Char → List Char × Option (List Char)
  | [] => ([], none)
  | c::s => if c = '=' then ([], some s) else let (l, r) := cut s; (c::l, r)

/-- What stands between brackets. -/
def ofAttribute (s : List Char) : Selector :=
  match cut s with
  | (key, some v) =>
      if key = "name".toList then named (String.ofList (unquoted v)) else nothing
  | (key, none) => if key = "name".toList then anyNamed else nothing

def parse (s : String) : Selector :=
  match Text.trim s.toList with
  | '.'::r => ofClass (String.ofList r)
  | '#'::r => ofId (String.ofList r)
  | '['::r =>
      if r.getLast? = some ']' then ofAttribute r.dropLast else named (String.ofList ('['::r))
  | r => named (String.ofList r)

def matchesElement (s : Selector) (e : Element) : Bool :=
  match s with
  | ofClass c => e.hasClass c
  | ofId i => e.id = some i
  | anyNamed => e.name.isSome
  | named n => e.name = some n
  | nothing => false

end Selector
end ScreenBinding
