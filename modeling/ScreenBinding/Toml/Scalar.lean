import ScreenBinding.Json.Basic

/-!
# Values without quotes

Booleans, integers in four bases, floating numbers, dates and times. Digits may be grouped by
single underscores.
-/
namespace ScreenBinding.Toml

inductive Scalar where
  | flag (b : Bool)
  | number (n : Number)
  /-- A date, a time, or both. -/
  | moment (text : String)

/-- The value of a digit, letters included. -/
def digit? (c : Char) : Option Nat :=
  if c.isDigit then some (c.toNat - '0'.toNat)
  else if 'a' ≤ c ∧ c ≤ 'f' then some (c.toNat - 'a'.toNat+10)
  else if 'A' ≤ c ∧ c ≤ 'F' then some (c.toNat - 'A'.toNat+10)
  else none

/-- The digits of a group in some base, with single underscores between digits. -/
def digits? (base : Nat) : List Char → Option (List Nat)
  | [] => none
  | [c] => do
      let d ← digit? c
      if d < base then some [d] else none
  | c :: '_' :: r => do
      let d ← digit? c
      if d < base then return d::(← digits? base r) else none
  | c::r => do
      let d ← digit? c
      if d < base then return d::(← digits? base r) else none

def ofDigits (base : Nat) (ds : List Nat) : Nat := ds.foldl (fun n d => base*n+d) 0

/-- Decimal digits without a leading zero. -/
def decimal? (s : List Char) : Option (List Nat) := do
  match ← digits? 10 s with
  | 0::_::_ => none
  | ds => some ds

/-- The sign, if there is one, and the rest. -/
def splitSign : List Char → Option Bool × List Char
  | '-'::r => (some true, r)
  | '+'::r => (some false, r)
  | r => (none, r)

/-- Integers have 128 bits, signed or unsigned. -/
def integer? (negative : Bool) (n : Nat) : Option Scalar :=
  if negative then if n ≤ Nat.pow 2 127 then some (.number (.whole (-(n : Int)))) else none
  else if n < Nat.pow 2 128 then some (.number (.whole n)) else none

/-- The number nearest to `mantissa · 10 ^ exponent`, unless it is infinite. -/
def float? (negative : Bool) (mantissa : List Nat) (exponent : Int) : Option Scalar :=
  let m := ofDigits 10 mantissa
  let size := (Nat.toDigits 10 m).length+exponent
  if m ≠ 0 ∧ 400 < size then none else
  let x :=
    if m = 0 ∨ size < -400 then 0.0
    else Float.ofScientific m (exponent < 0) exponent.natAbs
  if x.isInf then none
  else some (.number (.float (.ofFloat (if negative then -x else x))))

/-- What follows the digits before the point, an exponent included. -/
def fraction? (negative : Bool) (whole : List Nat) (s : List Char) : Option Scalar := do
  let (pointed, s) := match s with
    | '.'::r => (true, r)
    | r => (false, r)
  let isMark := fun c : Char => c = 'e' || c = 'E'
  let places ← if pointed then digits? 10 (s.takeWhile (!isMark ·)) else some []
  let exponent ← match (if pointed then s.dropWhile (!isMark ·) else s) with
    | [] => some 0
    | c::r => do
        if !isMark c then none
        let (sign, r) := splitSign r
        let n := ofDigits 10 (← digits? 10 r)
        some (if sign = some true then -(n : Int) else n)
  float? negative (whole ++ places) (exponent-places.length)

def number? (s : List Char) : Option Scalar :=
  let (sign, body) := splitSign s
  let negative := sign = some true
  match body with
  | ['i', 'n', 'f'] => some (.number (.float (.ofFloat (if negative then -1.0/0.0 else 1.0/0.0))))
  | ['n', 'a', 'n'] => some (.number (.float (.ofFloat (0.0/0.0))))
  | '0' :: 'x' :: r => if sign.isSome then none else do integer? false (ofDigits 16 (← digits? 16 r))
  | '0' :: 'o' :: r => if sign.isSome then none else do integer? false (ofDigits 8 (← digits? 8 r))
  | '0' :: 'b' :: r => if sign.isSome then none else do integer? false (ofDigits 2 (← digits? 2 r))
  | body => do
      let isDigit := fun c : Char => c.isDigit || c = '_'
      let whole ← decimal? (body.takeWhile isDigit)
      match body.dropWhile isDigit with
      | [] => integer? negative (ofDigits 10 whole)
      | rest => fraction? negative whole rest

/-- A number of exactly `n` digits, and the rest. -/
def fixed? (n : Nat) (s : List Char) : Option (Nat × List Char) :=
  let ds := s.takeWhile Char.isDigit
  if ds.length = n then some (ofDigits 10 (ds.filterMap digit?), s.dropWhile Char.isDigit) else none

/-- The rest after a given character. -/
def past? (c : Char) : List Char → Option (List Char)
  | d::r => if c = d then some r else none
  | [] => none

def daysIn (year month : Nat) : Nat :=
  if month = 2 then
    if year % 4 = 0 ∧ (year % 100 ≠ 0 ∨ year % 400 = 0) then 29 else 28
  else if [4, 6, 9, 11].contains month then 30 else 31

def afterDate? (s : List Char) : Option (List Char) := do
  let (year, s) ← fixed? 4 s
  let (month, s) ← fixed? 2 (← past? '-' s)
  let (day, s) ← fixed? 2 (← past? '-' s)
  if 1 ≤ month ∧ month ≤ 12 ∧ 1 ≤ day ∧ day ≤ daysIn year month then some s else none

/-- The parts of a second. -/
def afterFraction? : List Char → Option (List Char)
  | '.'::r => if (r.takeWhile Char.isDigit).isEmpty then none else some (r.dropWhile Char.isDigit)
  | s => some s

/-- Seconds may be left out; a leap second is a sixtieth. -/
def afterTime? (s : List Char) : Option (List Char) := do
  let (hour, s) ← fixed? 2 s
  let (minute, s) ← fixed? 2 (← past? ':' s)
  if 23 < hour ∨ 59 < minute then none
  match s with
  | ':'::r =>
      let (second, r) ← fixed? 2 r
      if 60 < second then none
      afterFraction? r
  | s => some s

/-- Whether the text is a distance from universal time, or empty. -/
def isOffset : List Char → Bool
  | [] => true
  | ['Z'] | ['z'] => true
  | c::r => (c = '+' || c = '-') && ((do
      let (hours, r) ← fixed? 2 r
      let (minutes, r) ← fixed? 2 (← past? ':' r)
      return decide (hours ≤ 23 ∧ minutes ≤ 59 ∧ r = []) : Option Bool) = some true)

def isMoment (s : List Char) : Bool :=
  match afterDate? s with
  | some [] => true
  | some (c::r) =>
      (c = 'T' || c = 't' || c = ' ') && ((afterTime? r).map isOffset = some true)
  | none => afterTime? s = some []

def Scalar.parse? (s : List Char) : Option Scalar :=
  match s with
  | ['t', 'r', 'u', 'e'] => some (.flag true)
  | ['f', 'a', 'l', 's', 'e'] => some (.flag false)
  | s => if isMoment s then some (.moment (String.ofList s)) else number? s

end ScreenBinding.Toml
