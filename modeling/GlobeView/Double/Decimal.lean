import GlobeView.Double.Arithmetic

/-! # Doubles as decimals

Every double is the nearest one to a whole interval of numbers.  `shortest` finds the decimal with
the fewest digits in that interval, and among those the one nearest to the double.  It works on
whole numbers only: on the grid of `n`-digit decimals the two neighbours of the double are the
only candidates, and the first `n` with a neighbour inside the interval wins.

`Parts.toPlaces` and `Parts.toSignificant` give the nearest decimal with a fixed number of places,
or with a fixed number of digits, to the exact value of a double; a half goes to the even
neighbour. -/

namespace GlobeView.Double

/-! ### The fewest digits that read back -/

/-- A decimal number `digits * 10 ^ exponent`. -/
structure Decimal where
  digits : Nat
  exponent : Int
deriving DecidableEq, Repr

/-- Which of two equally near neighbours is taken. -/
inductive Tie where
  /-- The upper one. -/
  | up
  /-- The one whose last digit is even. -/
  | even
deriving DecidableEq, Repr

/-- The factors `(s, t)` with `s / t = 10 ^ -k`. -/
def gridFactors (k : Int) : Nat × Nat :=
  if 0 ≤ k then (1, Nat.pow 10 k.toNat) else (Nat.pow 10 (-k).toNat, 1)

/-- Steps an exponent up, at most `fuel` times, while the next power of ten does not exceed
`num / den`. -/
def raiseExponent (num den : Nat) : Nat → Int → Int
  | 0, e => e
  | fuel + 1, e =>
    let (s, t) := gridFactors (e + 1)
    if den * t ≤ num * s then raiseExponent num den fuel (e + 1) else e

/-- The exponent `e` with `10 ^ e ≤ num / den < 10 ^ (e + 1)`, for a positive fraction.  The binary
lengths give it up to a few units. -/
def decimalExponent (num den : Nat) : Int :=
  let bits : Int := (num.log2 : Int) - den.log2 - 1
  raiseExponent num den 4 (bits * 30103 / 100000 - 1)

/-- The numbers that round to a double, over a common denominator. -/
structure Interval where
  low : Nat
  mid : Nat
  high : Nat
  den : Nat
  /-- Whether the ends belong to it. -/
  closed : Bool

/-- The interval around a positive double.  Its lower half is narrower where the significand is the
least of its binade. -/
def Parts.interval (p : Parts) : Interval :=
  let (num, den) := p.ratio
  let unit := if 0 ≤ p.exponent then Nat.pow 2 p.exponent.toNat else 1
  let below := if p.significand = fractionRange ∧ -1074 < p.exponent then 1 else 2
  ⟨4 * num - below * unit, 4 * num, 4 * num + 2 * unit, 4 * den, p.significand % 2 = 0⟩

/-- Whether the whole number `d`, in units of `step`, lies inside an interval scaled by `s`. -/
def Interval.contains (v : Interval) (s step d : Nat) : Bool :=
  if v.closed then v.low * s ≤ d * step && d * step ≤ v.high * s
  else v.low * s < d * step && d * step < v.high * s

/-- Of the neighbours `c` and `c + 1` of `x / step`, the nearer one. -/
def nearer (tie : Tie) (x step c : Nat) : Nat :=
  match compare (2 * x) ((2 * c + 1) * step) with
  | .lt => c
  | .gt => c + 1
  | .eq => match tie with
    | .up => c + 1
    | .even => c + c % 2

/-- The candidate on the grid of step `10 ^ k`, if one of the two neighbours is inside. -/
def Interval.onGrid? (v : Interval) (tie : Tie) (k : Int) : Option Nat :=
  let (s, t) := gridFactors k
  let step := v.den * t
  let c := v.mid * s / step
  match v.contains s step c, v.contains s step (c + 1) with
  | true, true => some (nearer tie (v.mid * s) step c)
  | true, false => some c
  | false, true => some (c + 1)
  | false, false => none

/-- Drops trailing zeros of the digits, at most `fuel` of them. -/
def Decimal.trim : Nat → Decimal → Decimal
  | 0, d => d
  | fuel + 1, d =>
    if d.digits % 10 = 0 ∧ d.digits ≠ 0 then trim fuel ⟨d.digits / 10, d.exponent + 1⟩ else d

/-- Searches the grids from a number of digits on. -/
def Interval.search (v : Interval) (tie : Tie) (e : Int) : Nat → Nat → Decimal
  | 0, n => ⟨v.mid / v.den, n⟩
  | fuel + 1, n =>
    let k := e - (n : Int) + 1
    match v.onGrid? tie k with
    | some d => Decimal.trim 20 ⟨d, k⟩
    | none => v.search tie e fuel (n + 1)

/-- The shortest decimal that reads back as a positive double; seventeen digits always do. -/
def shortest (tie : Tie) (p : Parts) : Decimal :=
  let v := p.interval
  v.search tie (decimalExponent v.mid v.den) 18 1

/-! ### Decimals of a given length -/

/-- The whole number nearest to `num / den`; a half goes to the even neighbour. -/
def roundDiv (num den : Nat) : Nat :=
  let q := num / den
  match compare (2 * (num % den)) den with
  | .lt => q
  | .gt => q + 1
  | .eq => q + q % 2

/-- The nearest multiple of `10 ^ -places`, counted in that unit. -/
def Parts.toPlaces (places : Nat) (p : Parts) : Nat :=
  let (num, den) := p.ratio
  roundDiv (num * Nat.pow 10 places) den

/-- The nearest decimal with `places + 1` digits; rounding up to a power of ten gives one digit
too many, whose last is dropped. -/
def Parts.toSignificant (places : Nat) (p : Parts) : Decimal :=
  let (num, den) := p.ratio
  let k := decimalExponent num den - places
  let (s, t) := gridFactors k
  let d := roundDiv (num * s) (den * t)
  if d = Nat.pow 10 (places + 1) then ⟨d / 10, k + 1⟩ else ⟨d, k⟩

end GlobeView.Double
