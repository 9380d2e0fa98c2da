import ScreenBinding.Decimal.Double

/-!
# Shortest decimals

The decimal written for a binary number is, among those that read back as that number, one with
the fewest digits, and of these the nearest. All comparisons are exact, on natural numbers.
-/
namespace ScreenBinding

/-- The decimal `digits · 10 ^ exponent`. -/
structure Decimal where
  digits : Nat
  exponent : Int
  deriving DecidableEq

namespace Decimal

/-- How many decimal digits `n` has. -/
def width (n : Nat) : Nat := (Nat.toDigits 10 n).length

/-- The binary number `num / den` with the interval of reals that round to it, all over `den`. -/
structure Rounding where
  num : Nat
  den : Nat
  low : Nat
  high : Nat
  closed : Bool

def Rounding.of (x : Double) : Rounding :=
  let up := Nat.pow 2 (x.scale-2).toNat
  let m := 4*x.significand
  { num := m*up, den := Nat.pow 2 (2-x.scale).toNat,
    low := (m-(if x.narrowBelow then 1 else 2))*up, high := (m+2)*up,
    closed := x.significand % 2 = 0 }

/-- The exponent of the leading digit of `num / den`. -/
def Rounding.magnitude (r : Rounding) : Int :=
  if r.den ≤ r.num then (width (r.num/r.den) : Int)-1
  else -(width ((r.den+r.num-1)/r.num-1) : Int)

/-- Whether `d · 10 ^ k` reads back. -/
def Rounding.holds (r : Rounding) (d : Nat) (k : Int) : Bool :=
  let v := d*r.den * Nat.pow 10 k.toNat
  let s := Nat.pow 10 (-k).toNat
  if r.closed then r.low*s ≤ v && v ≤ r.high*s else r.low*s < v && v < r.high*s

/-- The better of the two neighbours on the grid of `n` digits, if one reads back. -/
def Rounding.onGrid (r : Rounding) (n : Nat) : Option Decimal :=
  let k := r.magnitude-n+1
  let s := Nat.pow 10 (-k).toNat
  let unit := r.den * Nat.pow 10 k.toNat
  let d := r.num*s/unit
  let rest := 2*(r.num*s-d*unit)
  match r.holds d k, r.holds (d+1) k with
  | true, true =>
      if rest < unit ∨ (rest = unit ∧ d % 2 = 0) then some ⟨d, k⟩ else some ⟨d+1, k⟩
  | true, false => some ⟨d, k⟩
  | false, true => some ⟨d+1, k⟩
  | false, false => none

/-- The shortest decimal of a nonzero magnitude; seventeen digits always suffice. -/
def shortest (x : Double) : Decimal :=
  let r := Rounding.of x
  ((List.range 17).findSome? fun n => r.onGrid (n+1)).getD ⟨0, 0⟩

/-- The digits without trailing zeros, and the exponent of the first one. -/
def leading (d : Decimal) : List Char × Int :=
  let ds := Nat.toDigits 10 d.digits
  let kept := (ds.reverse.dropWhile (· = '0')).reverse
  (kept, d.exponent+ds.length-1)

end Decimal

/-- Positional between `0.00001` and below `10^16`, otherwise scientific with a signed exponent. -/
def Double.text (x : Double) : String :=
  let sign := if x.negative then "-" else ""
  if x.isZero then sign ++ "0.0" else
    let (ds, e) := (Decimal.shortest x).leading
    let body :=
      if -5 ≤ e ∧ e < 16 then
        if e < 0 then ['0', '.'] ++ List.replicate (-e-1).toNat '0' ++ ds
        else
          let whole := (e+1).toNat
          if ds.length ≤ whole then ds ++ List.replicate (whole-ds.length) '0' ++ ['.', '0']
          else ds.take whole ++ ['.'] ++ ds.drop whole
      else
        let mantissa := match ds with
          | [] => []
          | [d] => [d]
          | d::r => d :: '.' :: r
        mantissa ++ ['e', if e < 0 then '-' else '+'] ++ Nat.toDigits 10 e.natAbs
    sign ++ String.ofList body

end ScreenBinding
