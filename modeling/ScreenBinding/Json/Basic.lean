import ScreenBinding.Decimal.Double
import ScreenBinding.Table

/-!
# JSON values

The values that state, fields and requests carry. Whole numbers and floating numbers are kept
apart and are never equal; an object keeps its fields in the order of their first insertion, but
the order does not count when two objects are compared.
-/
namespace ScreenBinding

inductive Number where
  | whole (n : Int)
  | float (x : Double)
  deriving DecidableEq, Inhabited

namespace Number

def isZero : Number → Bool
  | whole n => n = 0
  | float x => x.isZero

def same : Number → Number → Bool
  | whole m, whole n => m = n
  | float x, float y => x.same y
  | _, _ => false

end Number

inductive Json where
  | null
  | bool (b : Bool)
  | number (n : Number)
  | string (s : String)
  | array (items : List Json)
  | object (fields : List (String × Json))
  deriving Inhabited

/-- The fields of an object. -/
abbrev Fields := Table Json

namespace Json

def whole (n : Int) : Json := number (.whole n)

def texts (items : List String) : Json := array (items.map string)

mutual
/-- Equality of values. -/
def same : Json → Json → Bool
  | null, null => true
  | bool a, bool b => a = b
  | number a, number b => a.same b
  | string a, string b => a = b
  | array a, array b => sameItems a b
  | object a, object b => a.length = b.length && sameFields a b
  | _, _ => false
def sameItems : List Json → List Json → Bool
  | [], [] => true
  | a::as, b::bs => a.same b && sameItems as bs
  | _, _ => false
/-- Every field of the first list has an equal partner in the second. -/
def sameFields : List (String × Json) → Fields → Bool
  | [], _ => true
  | (k, a)::as, bs =>
      (match Table.find? bs k with
        | some b => a.same b
        | none => false) && sameFields as bs
end

/-- `null`, `false`, zero and the empty text are falsy; lists and objects never are. -/
def truthy : Json → Bool
  | null => false
  | bool b => b
  | number n => !n.isZero
  | string s => s ≠ ""
  | array _ => true
  | object _ => true

/-- Text, numbers and booleans. -/
def isScalar : Json → Bool
  | string _ | number _ | bool _ => true
  | _ => false

def text? : Json → Option String
  | string s => some s
  | _ => none

/-- A value as a list: lists as they are, all else as one item. -/
def toItems : Json → List Json
  | array items => items
  | v => [v]

end Json
end ScreenBinding
