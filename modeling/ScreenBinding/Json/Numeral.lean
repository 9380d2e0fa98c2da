import ScreenBinding.Json.Basic

/-!
# Reading numbers

A numeral without fraction and exponent is a whole number as long as it fits into 64 bits, signed
or unsigned. Every other numeral is a floating number: its first digits are collected while they
fit into 64 bits, and the result is scaled by one power of ten, which may err in the last place.
Digits that no longer fit count as zeros before the point and are dropped after it.
-/
namespace ScreenBinding.Json

/-- The parts of a numeral. -/
structure Numeral where
  negative : Bool
  whole : List Char
  fraction : List Char
  exponent : Int
  /-- There is neither a fraction nor an exponent. -/
  plain : Bool

namespace Numeral

def digitValue (c : Char) : Nat := c.toNat - '0'.toNat

def natural (ds : List Char) : Nat := ds.foldl (fun n c => 10*n+digitValue c) 0

/-- A sign and at least one digit, up to the end. -/
def exponent? (s : List Char) : Option Int :=
  let (negative, ds) := match s with
    | '-'::r => (true, r)
    | '+'::r => (false, r)
    | r => (false, r)
  if ds = [] || ds.any (!·.isDigit) then none
  else some (if negative then -(natural ds : Int) else natural ds)

/-- `-`? digits (`.` digits)? (`e` sign? digits)?, without leading zeros. -/
def parse? (s : List Char) : Option Numeral := do
  let (negative, s) := match s with
    | '-'::r => (true, r)
    | r => (false, r)
  let whole := s.takeWhile Char.isDigit
  let rest := s.dropWhile Char.isDigit
  if whole = [] ∨ (1 < whole.length ∧ whole.head? = some '0') then none else
  let (pointed, fraction, rest) := match rest with
    | '.'::r => (true, r.takeWhile Char.isDigit, r.dropWhile Char.isDigit)
    | r => (false, [], r)
  if pointed ∧ fraction = [] then none else
  match rest with
  | [] => some ⟨negative, whole, fraction, 0, !pointed⟩
  | c::r =>
      if c = 'e' ∨ c = 'E' then (exponent? r).map (⟨negative, whole, fraction, ·, false⟩)
      else none

/-- The digits before the point that fit into 64 bits, and the count of those that do not. -/
def collectWhole (ds : List Char) : Nat × Nat :=
  ds.foldl (fun (n, dropped) c =>
    let m := 10*n+digitValue c
    if 0 < dropped ∨ UInt64.size ≤ m then (n, dropped+1) else (m, 0)) (0, 0)

/-- Appends the digits after the point up to the first that does not fit. -/
def collectFraction : Nat → List Char → Nat × Nat
  | n, [] => (n, 0)
  | n, c::r =>
      let m := 10*n+digitValue c
      if UInt64.size ≤ m then (n, 0)
      else let (k, used) := collectFraction m r; (k, used+1)

/-- One multiplication or division by a power of ten, with steps of `10^308` before a smaller
one. Nothing if the result is too large. -/
def scaled : Nat → Float → Int → Option Float
  | 0, x, _ => some x
  | steps+1, x, e =>
      if e.natAbs ≤ 308 then
        let p := Float.ofScientific 1 false e.natAbs
        if 0 ≤ e then (if (x*p).isInf then none else some (x*p)) else some (x/p)
      else if x == 0 then some x
      else if 0 ≤ e then none
      else scaled steps (x/1e308) (e+308)

def float? (n : Numeral) : Option Number :=
  let (w, dropped) := collectWhole n.whole
  let (m, used) := collectFraction w n.fraction
  -- after four steps of 10^308 nothing is left of a number below 2^64
  (scaled 5 m.toUInt64.toFloat (n.exponent+dropped-used)).map fun x =>
    .float (.ofFloat (if n.negative then -x else x))

/-- The number, or nothing if it is out of range. -/
def number? (n : Numeral) : Option Number :=
  let v := natural n.whole
  if n.plain && !n.negative && v < UInt64.size then some (.whole v)
  else if n.plain && n.negative && 1 ≤ v && v ≤ Nat.pow 2 63 then some (.whole (-(v : Int)))
  else n.float?

end Numeral
end ScreenBinding.Json
