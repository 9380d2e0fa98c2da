import ScreenBinding.Text.Letter

/-!
# Email addresses

A dotted local part, an at sign, and a dotted domain that ends in a label of letters. The last at
sign of a text is the one that counts.
-/
namespace ScreenBinding.Address

/-- Cuts a text at the last occurrence of `c`. -/
def cutLast (c : Char) : List Char → Option (List Char × List Char)
  | [] => none
  | d::s =>
      match cutLast c s with
      | some (l, r) => some (d::l, r)
      | none => if d = c then some ([], s) else none

def atomSymbols : List Char := "!#$%&'*+-/=?^_\x60\x7b|\x7d~".toList

def isAtomChar (c : Char) : Bool := Text.isLetterOrNumeral c || atomSymbols.contains c

def isLabelChar (c : Char) : Bool := Text.isLetterOrNumeral c || c = '-'

def isAtom (s : List Char) : Bool := s ≠ [] && s.all isAtomChar

/-- A label has no hyphen at its ends. -/
def isLabel (s : List Char) : Bool :=
  s ≠ [] && s.head? ≠ some '-' && s.getLast? ≠ some '-' && s.all isLabelChar

/-- One or more atoms between dots. -/
def isLocal (s : List Char) : Bool := (s.splitOn '.').all isAtom

/-- Two or more labels between dots, the last one of letters only. -/
def isDomain (s : List Char) : Bool :=
  let labels := s.splitOn '.'
  2 ≤ labels.length && labels.all isLabel &&
    (labels.getLast?.any fun l => l.all Text.isLetter)

def accepts (s : List Char) : Bool :=
  match cutLast '@' s with
  | some (l, d) => isLocal l && isDomain d
  | none => false

end ScreenBinding.Address
