import GlobeView.Double.Decimal

/-! # The texts of a double

Four ways of writing a double, all but the first with a fixed number of places:

* `plain`: the shortest digits, always positional, a whole number without a point;
* `fixed`: a given number of places;
* `scientific`: one digit, a point, a given number of places, an exponent;
* `coarse`: six places below a million and nine with an exponent from there on, never a negative
  zero.

Numbers that are not finite are written `NaN`, `inf` and `-inf`. -/

namespace GlobeView.Double

/-- The text of an undefined or infinite number. -/
def nonFiniteText (x : Float) : String :=
  if x.isNaN then "NaN" else if x < 0.0 then "-inf" else "inf"

/-- A sign in front of the text of a size. -/
def signed (negative : Bool) (text : String) : String :=
  if negative then "-" ++ text else text

/-- So many zeros. -/
def zeros (n : Nat) : String := String.ofList (List.replicate n '0')

/-- Positional notation; `tail` follows a number without fractional digits. -/
def Decimal.positional (tail : String) (d : Decimal) : String :=
  let digits := toString d.digits
  if 0 ≤ d.exponent then digits ++ zeros d.exponent.toNat ++ tail
  else
    let places := (-d.exponent).toNat
    if places < digits.length then
      let whole := digits.length - places
      String.ofList (digits.toList.take whole) ++ "." ++ String.ofList (digits.toList.drop whole)
    else "0." ++ zeros (places - digits.length) ++ digits

/-- Positional notation of a whole multiple of `10 ^ -places`, with all its places. -/
def withPlaces (places count : Nat) : String :=
  let digits := toString count
  let padded := zeros (places + 1 - digits.length) ++ digits
  let whole := padded.length - places
  let front := String.ofList (padded.toList.take whole)
  if places = 0 then front else front ++ "." ++ String.ofList (padded.toList.drop whole)

/-- The shortest digits that read back, written positionally. -/
def plain (x : Float) : String :=
  if !x.isFinite then nonFiniteText x
  else
    let p := parts x
    let size := if p.significand = 0 then "0" else (shortest .up p).positional ""
    signed p.negative size

/-- A fixed number of places. -/
def fixed (places : Nat) (x : Float) : String :=
  if !x.isFinite then nonFiniteText x
  else
    let p := parts x
    signed p.negative (withPlaces places (p.toPlaces places))

/-- One digit, a fixed number of places and an exponent. -/
def scientific (places : Nat) (x : Float) : String :=
  if !x.isFinite then nonFiniteText x
  else
    let p := parts x
    let d := if p.significand = 0 then ⟨0, -(places : Int)⟩ else p.toSignificant places
    signed p.negative (withPlaces places d.digits ++ "e" ++ toString (d.exponent + places))

/-- Six places below a million, without a negative zero; an exponent from there on. -/
def coarse (x : Float) : String :=
  if !x.isFinite then nonFiniteText x
  else if x.abs < 1000000.0 then
    let p := parts x
    let count := p.toPlaces 6
    signed (p.negative && count != 0) (withPlaces 6 count)
  else scientific 9 x

end GlobeView.Double
