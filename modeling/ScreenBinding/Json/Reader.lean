import ScreenBinding.Json.Node
import ScreenBinding.Json.Numeral

/-!
# Reading JSON

Two automata, one over characters and one over tokens. The lexer runs through blanks, words,
numerals and texts; the builder keeps a stack of the containers that are still open.
-/
namespace ScreenBinding.Json

inductive Token where
  | openArray | closeArray | openObject | closeObject | comma | colon
  | scalar (v : Node)

/-- The state of a text between its quotes. `high` is a pending first half of a pair. -/
inductive Quoting where
  | plain
  | escaped
  | code (digits : Nat) (value : Nat)

/-- What the lexer is in the middle of. -/
inductive Mode where
  | between
  | word (seen : List Char)
  | numeral (seen : List Char)
  /-- `seen` is reversed and missing once a lone half of a pair was met. -/
  | text (seen : Option (List Char)) (high : Option Nat) (q : Quoting)

structure Lexer where
  mode : Mode := .between
  /-- The latest token comes first. -/
  tokens : List Token := []

namespace Lexer

def isSpace (c : Char) : Bool := c = ' ' || c = '\t' || c = '\n' || c = '\r'

def isNumeralChar (c : Char) : Bool :=
  c.isDigit || c = '-' || c = '+' || c = '.' || c = 'e' || c = 'E'

def word? : List Char → Option Node
  | ['t', 'r', 'u', 'e'] => some (.bool true)
  | ['f', 'a', 'l', 's', 'e'] => some (.bool false)
  | ['n', 'u', 'l', 'l'] => some .null
  | _ => none

def start (tokens : List Token) (c : Char) : Option Lexer :=
  if isSpace c then some { tokens }
  else if c.isAlpha then some { mode := .word [c], tokens }
  else if c.isDigit || c = '-' then some { mode := .numeral [c], tokens }
  else match c with
    | '[' => some { tokens := .openArray::tokens }
    | ']' => some { tokens := .closeArray::tokens }
    | '{' => some { tokens := .openObject::tokens }
    | '}' => some { tokens := .closeObject::tokens }
    | ',' => some { tokens := .comma::tokens }
    | ':' => some { tokens := .colon::tokens }
    | '"' => some { mode := .text (some []) none .plain, tokens }
    | _ => none

/-- Closes a word or a numeral. -/
def finish (l : Lexer) : Option (List Token) :=
  match l.mode with
  | .between => some l.tokens
  | .word seen => (word? seen.reverse).map fun v => .scalar v::l.tokens
  | .numeral seen => (Numeral.parse? seen.reverse).map fun n => .scalar (.number n.number?)::l.tokens
  | .text .. => none

def hexValue (c : Char) : Option Nat :=
  if c.isDigit then some (c.toNat - '0'.toNat)
  else if 'a' ≤ c ∧ c ≤ 'f' then some (c.toNat - 'a'.toNat+10)
  else if 'A' ≤ c ∧ c ≤ 'F' then some (c.toNat - 'A'.toNat+10)
  else none

/-- Appends a character; a pending half of a pair spoils the text. -/
def append (seen : Option (List Char)) (high : Option Nat) (c : Char) : Option (List Char) :=
  if high.isSome then none else seen.map (c::·)

/-- Takes up a code written with four digits: a character, half of a pair, or its other half. -/
def takeCode (seen : Option (List Char)) (high : Option Nat) (v : Nat) : Mode :=
  let low := 0xDC00 ≤ v && v ≤ 0xDFFF
  match high with
  | some h =>
      if low then .text (seen.map (Char.ofNat (0x10000+(h-0xD800)*0x400+(v-0xDC00))::·)) none .plain
      else .text none none .plain
  | none =>
      if 0xD800 ≤ v && v ≤ 0xDBFF then .text seen (some v) .plain
      else if low then .text none none .plain
      else .text (seen.map (Char.ofNat v::·)) none .plain

def unescape (c : Char) : Option Char :=
  match c with
  | '"' => some '"'
  | '\\' => some '\\'
  | '/' => some '/'
  | 'b' => some '\x08'
  | 'f' => some '\x0c'
  | 'n' => some '\n'
  | 'r' => some '\r'
  | 't' => some '\t'
  | _ => none

def step (l : Lexer) (c : Char) : Option Lexer :=
  match l.mode with
  | .between => start l.tokens c
  | .word seen =>
      if c.isAlpha then some { l with mode := .word (c::seen) }
      else do start (← l.finish) c
  | .numeral seen =>
      if isNumeralChar c then some { l with mode := .numeral (c::seen) }
      else do start (← l.finish) c
  | .text seen high .plain =>
      if c = '"' then
        let s := if high.isSome then none else seen.map fun s => String.ofList s.reverse
        some { mode := .between, tokens := .scalar (.string s)::l.tokens }
      else if c = '\\' then some { l with mode := .text seen high .escaped }
      else if c.toNat < 0x20 then none
      else some { l with mode := .text (append seen high c) none .plain }
  | .text seen high .escaped =>
      if c = 'u' then some { l with mode := .text seen high (.code 0 0) }
      else (unescape c).map fun e => { l with mode := .text (append seen high e) none .plain }
  | .text seen high (.code n v) => do
      let v := 16*v+(← hexValue c)
      if n = 3 then some { l with mode := takeCode seen high v }
      else some { l with mode := .text seen high (.code (n+1) v) }

end Lexer

def tokens? (s : List Char) : Option (List Token) := do
  return (← (← s.foldlM Lexer.step {}).finish).reverse

/-- An open container; the latest item comes first. -/
inductive Open where
  | array (items : List Node)
  | object (fields : List (Option String × Node))
  | field (fields : List (Option String × Node)) (key : Option String)

/-- What may come next. -/
inductive Want where
  | value
  /-- An item or the end of an array just opened. -/
  | firstItem
  /-- A key or the end of an object just opened. -/
  | firstKey
  | key
  | colon
  /-- The value before is complete. -/
  | separator

structure Builder where
  stack : List Open := []
  want : Want := .value
  root : Option Node := none

namespace Builder

/-- Puts a complete value where it belongs. -/
def place (b : Builder) (v : Node) : Option Builder :=
  match b.stack with
  | [] => some { b with root := some v, want := .separator }
  | .array items::s => some { b with stack := .array (v::items)::s, want := .separator }
  | .field fields key::s => some { b with stack := .object ((key, v)::fields)::s, want := .separator }
  | .object _::_ => none

/-- Closes the innermost container. -/
def close (b : Builder) : Option Builder :=
  match b.stack with
  | .array items::s => { b with stack := s }.place (.array (s.length+1) items.reverse)
  | .object fields::s => { b with stack := s }.place (.object (s.length+1) fields.reverse)
  | _ => none

def value (b : Builder) : Token → Option Builder
  | .openArray => some { b with stack := .array []::b.stack, want := .firstItem }
  | .openObject => some { b with stack := .object []::b.stack, want := .firstKey }
  | .scalar v => b.place v
  | _ => none

def key (b : Builder) : Token → Option Builder
  | .scalar (.string k) =>
      match b.stack with
      | .object fields::s => some { b with stack := .field fields k::s, want := .colon }
      | _ => none
  | _ => none

def step (b : Builder) (t : Token) : Option Builder :=
  match b.want, t with
  | .value, t => b.value t
  | .firstItem, .closeArray => b.close
  | .firstItem, t => b.value t
  | .firstKey, .closeObject => b.close
  | .firstKey, t => b.key t
  | .key, t => b.key t
  | .colon, .colon => some { b with want := .value }
  | .colon, _ => none
  | .separator, t =>
      match b.stack, t with
      | .array _::_, .comma => some { b with want := .value }
      | .array _::_, .closeArray => b.close
      | .object _::_, .comma => some { b with want := .key }
      | .object _::_, .closeObject => b.close
      | _, _ => none

end Builder

/-- The tree of a whole text. -/
def node? (s : String) : Option Node := do
  let b ← (← tokens? s.toList).foldlM Builder.step {}
  if b.stack.isEmpty then b.root else none

/-- The value of a whole text. -/
def parse? (s : String) : Option Json := do (← node? s).toJson

end ScreenBinding.Json
