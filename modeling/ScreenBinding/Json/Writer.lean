import ScreenBinding.Json.Basic
import ScreenBinding.Decimal.Shortest

/-!
# Writing JSON

`compact` writes without spaces, `indented` with two blanks per level. Quotes, backslashes and
controls are escaped, everything else is written as it is.
-/
namespace ScreenBinding

def Number.text : Number → String
  | whole n => toString n
  | float x => x.text

namespace Json

def hexDigit (n : Nat) : Char := ((Nat.toDigits 16 n).head?).getD '0'

def escapeChar (c : Char) : List Char :=
  match c with
  | '"' => ['\\', '"']
  | '\\' => ['\\', '\\']
  | '\n' => ['\\', 'n']
  | '\r' => ['\\', 'r']
  | '\t' => ['\\', 't']
  | '\x08' => ['\\', 'b']
  | '\x0c' => ['\\', 'f']
  | c =>
      if c.toNat < 0x20 then ['\\', 'u', '0', '0', hexDigit (c.toNat/16), hexDigit (c.toNat % 16)]
      else [c]

def quoted (s : String) : String :=
  String.ofList ('"'::s.toList.flatMap escapeChar ++ ['"'])

mutual
def compact : Json → String
  | null => "null"
  | bool b => if b then "true" else "false"
  | number n => n.text
  | string s => quoted s
  | array items => "[" ++ compactItems items ++ "]"
  | object fields => "\x7b" ++ compactFields fields ++ "\x7d"
def compactItems : List Json → String
  | [] => ""
  | [v] => v.compact
  | v::vs => v.compact ++ "," ++ compactItems vs
def compactFields : List (String × Json) → String
  | [] => ""
  | [(k, v)] => quoted k ++ ":" ++ v.compact
  | (k, v)::fs => quoted k ++ ":" ++ v.compact ++ "," ++ compactFields fs
end

def newline (level : Nat) : String := "\n" ++ String.ofList (List.replicate (2*level) ' ')

mutual
/-- The value as it stands at a nesting level. -/
def indented (level : Nat) : Json → String
  | array [] => "[]"
  | object [] => "\x7b\x7d"
  | array (v::vs) => "[" ++ indentedItems level (v::vs) ++ newline level ++ "]"
  | object (f::fs) => "\x7b" ++ indentedFields level (f::fs) ++ newline level ++ "\x7d"
  | null => "null"
  | bool b => if b then "true" else "false"
  | number n => n.text
  | string s => quoted s
def indentedItems (level : Nat) : List Json → String
  | [] => ""
  | [v] => newline (level+1) ++ v.indented (level+1)
  | v::vs => newline (level+1) ++ v.indented (level+1) ++ "," ++ indentedItems level vs
def indentedFields (level : Nat) : List (String × Json) → String
  | [] => ""
  | [(k, v)] => newline (level+1) ++ quoted k ++ ": " ++ v.indented (level+1)
  | (k, v)::fs =>
      newline (level+1) ++ quoted k ++ ": " ++ v.indented (level+1) ++ "," ++
        indentedFields level fs
end

end Json
end ScreenBinding
