import ScreenBinding.Toml.Scalar
import ScreenBinding.Toml.Token

/-!
# Statements of a configuration text

A text is a list of entries and of headers, each of them on lines of its own. The reader is an
automaton over tokens with a stack of the values that are still open.
-/
namespace ScreenBinding.Toml

/-- A dotted key: where to go, and the name there. -/
structure KeyPath where
  parents : List String
  last : String

inductive Value where
  | scalar (s : Scalar)
  | text (s : String)
  | array (items : List Value)
  | inline (entries : List (KeyPath × Value))

inductive Statement where
  | entry (key : KeyPath) (v : Value)
  /-- What follows belongs to this table. -/
  | table (key : KeyPath)
  /-- What follows belongs to a new last table of this list. -/
  | element (key : KeyPath)

/-- Where a key stands. -/
inductive Place where
  /-- Before an equals sign. -/
  | entry
  | table
  | element
  deriving DecidableEq

/-- A value that is still open; the latest item comes first. -/
inductive Open where
  | entry (key : KeyPath)
  | array (items : List Value)
  | inline (entries : List (KeyPath × Value))

/-- What may come next. -/
inductive Want where
  /-- A statement or the end of the line. -/
  | line
  /-- After the bracket of a header, where a second one may follow. -/
  | header
  /-- A part of a key; the parts before come latest first. -/
  | key (place : Place) (done : List String)
  /-- A dot or the end of a key. -/
  | keyEnd (place : Place) (done : List String)
  /-- The second closing bracket of a header. -/
  | headerEnd (key : KeyPath)
  | value
  /-- More of a value without quotes. -/
  | scalar (seen : List Char)
  /-- An item or the end of an array. -/
  | item
  /-- An entry or the end of an inline table. -/
  | member
  /-- The value before is complete. -/
  | separator
  | lineEnd

/-- Values nest at most this deep, and keys have at most one part more. -/
def maxDepth : Nat := 80

structure Reader where
  want : Want := .line
  stack : List Open := []
  /-- The latest statement comes first. -/
  statements : List Statement := []

def isKeyChar (c : Char) : Bool := c.isAlphanum || c = '-' || c = '_'

def KeyPath.ofParts? : List String → Option KeyPath
  | [] => none
  | last::parents => some ⟨parents.reverse, last⟩

namespace Reader

def become (r : Reader) (w : Want) : Reader := { r with want := w }

def isContainer : Open → Bool
  | .entry _ => false
  | _ => true

/-- Puts a complete value where it belongs. -/
def place (r : Reader) (v : Value) : Option Reader :=
  match r.stack with
  | .array items::s => some { r with stack := .array (v::items)::s, want := .separator }
  | [.entry key] =>
      some { want := .lineEnd, stack := [], statements := .entry key v::r.statements }
  | .entry key::.inline entries::s =>
      some { r with stack := .inline ((key, v)::entries)::s, want := .separator }
  | _ => none

/-- Opens an array or an inline table. -/
def enter (r : Reader) (o : Open) (w : Want) : Option Reader :=
  if (r.stack.filter isContainer).length < maxDepth then
    some { r with stack := o::r.stack, want := w }
  else none

/-- Closes the innermost value, if it is of the kind that the bracket closes. -/
def close (r : Reader) (t : Token) : Option Reader :=
  match t, r.stack with
  | .closeBracket, .array items::s => { r with stack := s }.place (.array items.reverse)
  | .closeBrace, .inline entries::s => { r with stack := s }.place (.inline entries.reverse)
  | _, _ => none

def value (r : Reader) : Token → Option Reader
  | .bare s => some (r.become (.scalar s.reverse))
  | .dot => some (r.become (.scalar ['.']))
  | .text s _ => r.place (.text s)
  | .openBracket => r.enter (.array []) .item
  | .openBrace => r.enter (.inline []) .member
  | _ => none

def keyPart (r : Reader) (place : Place) (done : List String) : Token → Option Reader
  | .bare s =>
      if s.all isKeyChar then some (r.become (.keyEnd place (String.ofList s::done))) else none
  | .text s false => some (r.become (.keyEnd place (s::done)))
  | _ => none

/-- What may follow the parts of a key. -/
def keyEnd (r : Reader) (place : Place) (done : List String) (t : Token) : Option Reader := do
  match place, t with
  | _, .blank _ => some r
  | _, .dot => if done.length ≤ maxDepth then some (r.become (.key place done)) else none
  | .entry, .equals =>
      some { r with stack := .entry (← KeyPath.ofParts? done)::r.stack, want := .value }
  | .table, .closeBracket =>
      some { r with statements := .table (← KeyPath.ofParts? done)::r.statements, want := .lineEnd }
  | .element, .closeBracket => some (r.become (.headerEnd (← KeyPath.ofParts? done)))
  | _, _ => none

/-- What may follow a complete value inside another one. -/
def separator (r : Reader) (t : Token) : Option Reader :=
  match t, r.stack with
  | .blank _, _ | .newline, _ => some r
  | .comma, .array _::_ => some (r.become .item)
  | .comma, .inline _::_ => some (r.become .member)
  | t, _ => r.close t

/-- What may follow the value of an entry, or a header, on its line. -/
def lineEnd (r : Reader) : Token → Option Reader
  | .blank _ => some r
  | .newline => some (r.become .line)
  | _ => none

/-- After a value: the line may be at its end, or the enclosing value goes on. -/
def after (r : Reader) (t : Token) : Option Reader :=
  if r.stack.isEmpty then r.lineEnd t else r.separator t

/-- The value in `seen`, without the blanks behind it. -/
def scalar? (seen : List Char) : Option Scalar :=
  Scalar.parse? (seen.dropWhile fun c => c = ' ' || c = '\t').reverse

def step (r : Reader) (t : Token) : Option Reader :=
  match r.want, t with
  | .line, .blank _ | .line, .newline => some r
  | .line, .openBracket => some (r.become .header)
  | .line, t => r.keyPart .entry [] t
  | .header, .openBracket => some (r.become (.key .element []))
  | .header, .blank _ => some (r.become (.key .table []))
  | .header, t => r.keyPart .table [] t
  | .key .., .blank _ => some r
  | .key p done, t => r.keyPart p done t
  | .keyEnd p done, t => r.keyEnd p done t
  | .headerEnd key, .closeBracket =>
      some { r with statements := .element key::r.statements, want := .lineEnd }
  | .headerEnd _, _ => none
  | .value, .blank _ => some r
  | .value, t => r.value t
  | .scalar seen, .blank c => some (r.become (.scalar (c::seen)))
  | .scalar seen, .bare s => some (r.become (.scalar (s.reverse ++ seen)))
  | .scalar seen, .dot => some (r.become (.scalar ('.'::seen)))
  | .scalar seen, t => do (← r.place (.scalar (← scalar? seen))).after t
  | .item, .blank _ | .item, .newline => some r
  | .item, .closeBracket => r.close .closeBracket
  | .item, t => r.value t
  | .member, .blank _ | .member, .newline => some r
  | .member, .closeBrace => r.close .closeBrace
  | .member, t => r.keyPart .entry [] t
  | .separator, t => r.separator t
  | .lineEnd, t => r.lineEnd t

end Reader

/-- The statements of a text. -/
def statements? (text : String) : Option (List Statement) := do
  let r ← ((← tokens? text.toList) ++ [Token.newline]).foldlM Reader.step {}
  match r.want with
  | .line => some r.statements.reverse
  | _ => none

end ScreenBinding.Toml
