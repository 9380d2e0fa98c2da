import ScreenBinding.Json.Reader

/-!
# Words of a configuration text

The lexer is an automaton over characters. Comments are dropped; blanks are kept, because a date
may have one inside. Texts between quotes come with their escapes resolved.
-/
namespace ScreenBinding.Toml

inductive Token where
  | blank (c : Char)
  | newline
  | dot | equals | comma
  | openBracket | closeBracket | openBrace | closeBrace
  /-- A run of characters without a meaning of their own: part of a key, or of a value. -/
  | bare (s : List Char)
  | text (s : String) (multiline : Bool)

inductive Quote where
  /-- With escapes. -/
  | basic
  | literal
  deriving DecidableEq

def Quote.mark : Quote → Char
  | basic => '"'
  | literal => '\''

/-- A text that is still open; the latest character comes first. -/
structure Draft where
  quote : Quote
  multiline : Bool
  seen : List Char := []

namespace Draft

def push (d : Draft) (c : Char) : Draft := { d with seen := c::d.seen }

def done (d : Draft) : Token := .text (String.ofList d.seen.reverse) d.multiline

end Draft

/-- What the lexer is in the middle of. -/
inductive Mode where
  | between
  /-- After a carriage return, which must belong to a line end. -/
  | carriage
  | comment
  | bare (seen : List Char)
  /-- After one or two marks, which may be an empty text or grow to three. -/
  | opening (q : Quote) (marks : Nat)
  /-- After three marks, where a line end does not count. -/
  | opened (q : Quote) (carriage : Bool)
  | text (d : Draft)
  | textCarriage (d : Draft)
  /-- After marks inside a text of several lines; three of them end it. -/
  | marks (d : Draft) (count : Nat)
  | escape (d : Draft)
  | code (d : Draft) (missing value : Nat)
  /-- After a backslash that joins two lines; `broken` once the first has ended. -/
  | joining (d : Draft) (broken : Bool)
  | joiningCarriage (d : Draft)

structure Lexer where
  mode : Mode := .between
  /-- The latest token comes first. -/
  tokens : List Token := []

/-- Characters of comments and texts: no controls but the tabulator. -/
def isPlain (c : Char) : Bool := c = '\t' || (0x20 ≤ c.toNat && c.toNat ≠ 0x7F)

namespace Lexer

def emit (l : Lexer) (t : Token) : Lexer := { mode := .between, tokens := t::l.tokens }

def become (l : Lexer) (m : Mode) : Lexer := { l with mode := m }

/-- A character between two tokens. -/
def start (l : Lexer) (c : Char) : Option Lexer :=
  if c = '"' then some (l.become (.opening .basic 1))
  else if c = '\'' then some (l.become (.opening .literal 1))
  else match c with
    | ' ' | '\t' => some (l.emit (.blank c))
    | '\n' => some (l.emit .newline)
    | '\r' => some (l.become .carriage)
    | '#' => some (l.become .comment)
    | '.' => some (l.emit .dot)
    | '=' => some (l.emit .equals)
    | ',' => some (l.emit .comma)
    | '[' => some (l.emit .openBracket)
    | ']' => some (l.emit .closeBracket)
    | '{' => some (l.emit .openBrace)
    | '}' => some (l.emit .closeBrace)
    | c => some (l.become (.bare [c]))

/-- Whether a bare run goes on. -/
def isBare (c : Char) : Bool := !(" \t\r\n#.=,[]\x7b\x7d\"\x27".toList.contains c)

/-- A character of a text in which nothing is pending. -/
def inside (l : Lexer) (d : Draft) (c : Char) : Option Lexer :=
  if c = d.quote.mark then
    some (if d.multiline then l.become (.marks d 1) else l.emit d.done)
  else if c = '\\' ∧ d.quote = .basic then some (l.become (.escape d))
  else if isPlain c ∨ (d.multiline ∧ c = '\n') then some (l.become (.text (d.push c)))
  else if d.multiline ∧ c = '\r' then some (l.become (.textCarriage d))
  else none

/-- Five marks are two of the text and three that end it. -/
def closeMarks (l : Lexer) (d : Draft) (count : Nat) : Lexer :=
  l.emit { d with seen := List.replicate (count-3) d.quote.mark ++ d.seen }.done

def unescape (c : Char) : Option Char :=
  match c with
  | '"' => some '"'
  | '\\' => some '\\'
  | 'b' => some '\x08'
  | 't' => some '\t'
  | 'n' => some '\n'
  | 'f' => some '\x0c'
  | 'r' => some '\r'
  | 'e' => some '\x1b'
  | _ => none

/-- The number of digits of an escaped code. -/
def codeLength (c : Char) : Option Nat :=
  match c with
  | 'x' => some 2
  | 'u' => some 4
  | 'U' => some 8
  | _ => none

def escaped (l : Lexer) (d : Draft) (c : Char) : Option Lexer :=
  match codeLength c, unescape c with
  | some n, _ => some (l.become (.code d n 0))
  | none, some e => some (l.become (.text (d.push e)))
  | none, none =>
      if d.multiline ∧ (c = ' ' ∨ c = '\t') then some (l.become (.joining d false))
      else if d.multiline ∧ c = '\n' then some (l.become (.joining d true))
      else if d.multiline ∧ c = '\r' then some (l.become (.joiningCarriage d))
      else none

def step (l : Lexer) (c : Char) : Option Lexer :=
  match l.mode with
  | .between => l.start c
  | .carriage => if c = '\n' then some (l.emit .newline) else none
  | .comment =>
      if c = '\n' then some (l.emit .newline)
      else if c = '\r' then some (l.become .carriage)
      else if isPlain c then some l else none
  | .bare seen =>
      if isBare c then some (l.become (.bare (c::seen)))
      else (l.emit (.bare seen.reverse)).start c
  | .opening q n =>
      if c = q.mark then some (l.become (if n = 1 then .opening q 2 else .opened q false))
      else if n = 1 then l.inside ⟨q, false, []⟩ c
      else (l.emit (.text "" false)).start c
  | .opened q false =>
      if c = '\n' then some (l.become (.text ⟨q, true, []⟩))
      else if c = '\r' then some (l.become (.opened q true))
      else l.inside ⟨q, true, []⟩ c
  | .opened q true => if c = '\n' then some (l.become (.text ⟨q, true, []⟩)) else none
  | .text d => l.inside d c
  | .textCarriage d =>
      if c = '\n' then some (l.become (.text ((d.push '\r').push '\n'))) else none
  | .marks d n =>
      if c = d.quote.mark then (if n < 5 then some (l.become (.marks d (n+1))) else none)
      else if 3 ≤ n then (l.closeMarks d n).start c
      else l.inside { d with seen := List.replicate n d.quote.mark ++ d.seen } c
  | .escape d => l.escaped d c
  | .code d missing v => do
      let v := 16*v+(← Json.Lexer.hexValue c)
      if missing ≠ 1 then return l.become (.code d (missing-1) v)
      else if v.isValidChar then return l.become (.text (d.push (Char.ofNat v)))
      else none
  | .joining d broken =>
      if c = '\n' then some (l.become (.joining d true))
      else if c = '\r' then some (l.become (.joiningCarriage d))
      else if c = ' ' ∨ c = '\t' then some l
      else if broken then l.inside d c
      else none
  | .joiningCarriage d => if c = '\n' then some (l.become (.joining d true)) else none

/-- The tokens, at the end of the text. -/
def finish (l : Lexer) : Option (List Token) :=
  match l.mode with
  | .between | .comment => some l.tokens
  | .bare seen => some (l.emit (.bare seen.reverse)).tokens
  | .opening _ 2 => some (l.emit (.text "" false)).tokens
  | .marks d n => if 3 ≤ n then some (l.closeMarks d n).tokens else none
  | _ => none

end Lexer

/-- The tokens of a text; a byte order mark at its start does not count. -/
def tokens? (s : List Char) : Option (List Token) := do
  let s := match s with
    | '\ufeff'::r => r
    | r => r
  return (← (← s.foldlM Lexer.step {}).finish).reverse

end ScreenBinding.Toml
