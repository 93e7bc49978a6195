/-! # Scalars

The geometry, the physics and the drawing of the globe are written once, over any type of
numbers that offers the operations of this class.  The program runs them on doubles
(`GlobeView.Double.Arithmetic`); a proof may read the same definitions over exact numbers.

* The order is a pair of decidable relations and equality is a Boolean test, because on doubles
  neither is total: an undefined number is below, above and equal to nothing.
* `Scalar.max` and `Scalar.min` give the other operand when one of the two is undefined, and the
  second when they are equal: the two zeros are equal and yet differ.
* Every formula of the library spells its operations in the order in which they are rounded.

Counts live in machine words of 64 bits: they stay below `wordRange`. -/

namespace GlobeView

/-- The numbers that a globe is computed with. -/
class Scalar (α : Type) extends
    Add α, Sub α, Mul α, Div α, Neg α, LT α, LE α, BEq α, OfScientific α where
  /-- A count as a number. -/
  ofNat : Nat → α
  /-- The strict order can be tested. -/
  decLt : DecidableLT α
  /-- The order can be tested. -/
  decLe : DecidableLE α
  abs : α → α
  sqrt : α → α
  sin : α → α
  cos : α → α
  /-- The length of the hypotenuse over two legs. -/
  hypot : α → α → α
  /-- The nearest whole number; a half goes away from zero. -/
  round : α → α
  /-- The remainder in `[0, |b|)` that `b` leaves of `a`. -/
  modulo : α → α → α
  /-- Whether the number is defined and not infinite. -/
  isFinite : α → Bool
  /-- A full turn, in radians. -/
  tau : α
  /-- One degree, in radians. -/
  degree : α
  /-- The whole part as a machine word, held at the ends of its range. -/
  toWord : α → UInt32

attribute [reducible, instance] Scalar.decLt Scalar.decLe

namespace Scalar

variable {α : Type} [Scalar α]

/-- Whole numerals denote scalars. -/
instance (priority := low) instOfNat (n : Nat) : OfNat α n := ⟨ofNat n⟩

instance (priority := low) : Inhabited α := ⟨0⟩

/-- An undefined number is the one that differs from itself. -/
def isUndefined (a : α) : Bool := !(a == a)

/-- The greater of two numbers, the second of equal ones; an undefined one gives way. -/
def max (a b : α) : α :=
  if isUndefined b then a else if b < a then a else b

/-- The lesser of two numbers, the second of equal ones; an undefined one gives way. -/
def min (a b : α) : α :=
  if isUndefined b then a else if a < b then a else b

/-- The number of `[low, high]` nearest to `a`; an undefined number stays as it is. -/
def clamp (a low high : α) : α :=
  let raised := if a < low then low else a
  if high < raised then high else raised

/-- An angle given in degrees, in radians. -/
def radians (deg : α) : α := deg * degree

end Scalar

/-- The number of 64-bit words: `2 ^ 64`. -/
def wordRange : Nat := 18446744073709551616

end GlobeView
