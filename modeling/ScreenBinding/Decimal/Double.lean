/-!
# Binary floating point

A finite binary64 number is kept by its bit pattern, so that two numbers can be told apart and
reasoned about without the operations of the machine.
-/
namespace ScreenBinding

/-- A binary64 number by its bit pattern. -/
structure Double where
  bits : UInt64
  deriving DecidableEq, Inhabited

namespace Double

def negative (x : Double) : Bool := x.bits >>> 63 == 1

def fraction (x : Double) : Nat := (x.bits &&& 0xFFFFFFFFFFFFF).toNat

def biased (x : Double) : Nat := ((x.bits >>> 52) &&& 0x7FF).toNat

/-- The magnitude is `significand · 2 ^ scale`. -/
def significand (x : Double) : Nat :=
  if x.biased = 0 then x.fraction else x.fraction + Nat.pow 2 52

def scale (x : Double) : Int := (max x.biased 1 : Nat)-1075

/-- The gap below the number is half of the gap above it. -/
def narrowBelow (x : Double) : Bool := x.fraction = 0 && 1 < x.biased

def isZero (x : Double) : Bool := x.significand = 0

/-- Equality of numbers: the two zeros are equal. -/
def same (x y : Double) : Bool := x = y || (x.isZero && y.isZero)

def ofFloat (f : Float) : Double := ⟨f.toBits⟩

end Double
end ScreenBinding
