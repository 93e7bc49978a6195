import GlobeView.Scalar

/-! # Doubles as scalars

The globe runs on doubles.  Sums, products, quotients and roots are those of the hardware; this
module adds the operations that are not: rounding halves away from zero, the exact remainder and
the hypotenuse that neither overflows nor underflows.

A finite double is `± significand * 2 ^ exponent` with a whole significand below `2 ^ 53`.
`Parts` names the three; reading them off and putting them together are exact. -/

namespace GlobeView.Double

/-! ### Parts -/

/-- A finite double taken apart. -/
structure Parts where
  negative : Bool
  significand : Nat
  exponent : Int
deriving DecidableEq, Repr

/-- Fractions are below this: they have 52 bits. -/
def fractionRange : Nat := 4503599627370496

/-- The sign bit of a double. -/
def isNegative (x : Float) : Bool := x.toBits >>> 63 == 1

/-- The parts of a finite double.  The low 52 bits are the fraction; a normal number has one more
significant bit in front of them. -/
def parts (x : Float) : Parts :=
  let bits := x.toBits.toNat
  let fraction : Nat := bits % fractionRange
  let biased : Nat := bits / fractionRange % 2048
  if biased = 0 then ⟨isNegative x, fraction, -1074⟩
  else ⟨isNegative x, fractionRange + fraction, (biased : Int) - 1075⟩

/-- The power of two with an exponent from `-1074` to `1023`. -/
def powerOfTwo (e : Int) : Float :=
  if e < -1022 then Float.ofBits (Nat.pow 2 (e + 1074).toNat).toUInt64
  else Float.ofBits ((e + 1023).toNat * fractionRange).toUInt64

/-- The double with given parts, for a significand below `2 ^ 53`. -/
def ofParts (p : Parts) : Float :=
  let size := p.significand.toUInt64.toFloat * powerOfTwo p.exponent
  if p.negative then -size else size

/-- The size of a finite double as a fraction of whole numbers. -/
def Parts.ratio (p : Parts) : Nat × Nat :=
  if 0 ≤ p.exponent then (p.significand * Nat.pow 2 p.exponent.toNat, 1)
  else (p.significand, Nat.pow 2 (-p.exponent).toNat)

/-! ### Operations -/

/-- The nearest whole number, a half going away from zero.  From `2 ^ 52` on every double is
whole. -/
def round (x : Float) : Float :=
  let size := x.abs
  if size < 4503599627370496.0 then
    let whole := size.toUInt64.toFloat
    let nearest := if 0.5 ≤ size - whole then whole + 1.0 else whole
    if isNegative x then -nearest else nearest
  else x

/-- What is left of `a` after taking away `b` as often as it goes, with the sign of `a`.  Both are
brought to the lesser of the two exponents, so the remainder is exact. -/
def remainder (a b : Float) : Float :=
  if a.isNaN || b.isNaN || a.isInf || b == 0.0 then 0.0 / 0.0
  else if b.isInf then a
  else
    let p := parts a
    let q := parts b
    let e := Min.min p.exponent q.exponent
    let rest := p.significand * Nat.pow 2 (p.exponent - e).toNat %
      (q.significand * Nat.pow 2 (q.exponent - e).toNat)
    ofParts ⟨p.negative, rest, e⟩

/-- The remainder moved into `[0, |b|)`. -/
def modulo (a b : Float) : Float :=
  let r := remainder a b
  if r < 0.0 then r + b.abs else r

/-- The hypotenuse over legs `long ≥ short ≥ 0` whose squares are in range: the root of the sum of
squares, corrected once by the error that its rounding made. -/
def hypotInRange (long short : Float) : Float :=
  let h := (long * long + short * short).sqrt
  if h ≤ 2.0 * short then
    let delta := h - short
    let t1 := long * (2.0 * delta - long)
    let t2 := (delta - 2.0 * (long - short)) * delta
    h - (t1 + t2) / (2.0 * h)
  else
    let delta := h - long
    let t1 := 2.0 * delta * (long - 2.0 * short)
    let t2 := (4.0 * delta - short) * short + delta * delta
    h - (t1 + t2) / (2.0 * h)

/-- The hypotenuse over two legs.  An infinite leg makes it infinite whatever the other is; legs
far from one are scaled by a power of two first, and a leg too short to matter is added. -/
def hypot (x y : Float) : Float :=
  let a := x.abs
  let b := y.abs
  if a.isInf || b.isInf then 1.0 / 0.0
  else if a.isNaN || b.isNaN then 0.0 / 0.0
  else
    let long := if a < b then b else a
    let short := if a < b then a else b
    let tiny := powerOfTwo (-54)
    if powerOfTwo 511 < long then
      if short ≤ long * tiny then long + short
      else hypotInRange (long * powerOfTwo (-600)) (short * powerOfTwo (-600)) * powerOfTwo 600
    else if short < powerOfTwo (-459) then
      if short * powerOfTwo 54 ≤ long then long + short
      else hypotInRange (long * powerOfTwo 600) (short * powerOfTwo 600) * powerOfTwo (-600)
    else if short ≤ long * tiny then long + short
    else hypotInRange long short

instance : Scalar Float where
  ofNat := Float.ofNat
  decLt := inferInstance
  decLe := inferInstance
  abs := Float.abs
  sqrt := Float.sqrt
  sin := Float.sin
  cos := Float.cos
  hypot := hypot
  round := round
  modulo := modulo
  isFinite := Float.isFinite
  tau := 6.283185307179586
  degree := 0.017453292519943295
  toWord := Float.toUInt32

end GlobeView.Double
