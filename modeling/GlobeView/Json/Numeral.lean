import GlobeView.Double.Text
import GlobeView.Json.Fault

/-! # Numbers in JSON

A written number is read as a significand of at most 64 bits and a power of ten, and becomes a
double by one multiplication or division.  Whole numbers of at most 64 bits stay exact, so that they
can also be read as bytes. -/

namespace GlobeView.Json

/-! ### Writing -/

/-- A decimal with its point behind the first digit. -/
def exponential (d : Double.Decimal) : String :=
  let digits := toString d.digits
  let e := d.exponent + (digits.length - 1 : Nat)
  let tail := digits.toList.drop 1
  let mantissa := String.ofList (digits.toList.take 1) ++
    (if tail.isEmpty then "" else "." ++ String.ofList tail)
  mantissa ++ "e" ++ (if e < 0 then "-" else "+") ++ toString e.natAbs

/-- The shortest digits of a finite double: positional with at least one place from `10 ^ -5` to
below `10 ^ 16`, with a signed exponent otherwise. -/
def finiteText (x : Float) : String :=
  let p := Double.parts x
  if p.significand = 0 then Double.signed p.negative "0.0"
  else
    let d := Double.shortest .even p
    let e := d.exponent + ((toString d.digits).length - 1 : Nat)
    Double.signed p.negative (if -5 ≤ e ∧ e ≤ 15 then d.positional ".0" else exponential d)

/-! ### Scanning -/

/-- A number as it is written. -/
inductive Numeral where
  /-- A whole number that fits into 64 bits. -/
  | whole (value : Int)
  /-- `± significand * 10 ^ exponent`. -/
  | real (negative : Bool) (significand : Nat) (exponent : Int)
deriving DecidableEq, Repr

/-- The digit that a character stands for. -/
def digitValue (c : Char) : Nat := c.toNat - '0'.toNat

/-- Takes up digits as long as the significand fits into a word.  Answers the significand and how many
digits it took. -/
def takeDigits (significand taken : Nat) : List Char → Nat × Nat
  | [] => (significand, taken)
  | c :: rest =>
    let next := significand * 10 + digitValue c
    if next < wordRange then takeDigits next (taken + 1) rest else (significand, taken)

/-- The value of all digits. -/
def digitsValue (cs : List Char) : Nat := cs.foldl (fun n c => n * 10 + digitValue c) 0

/-- Splits off the digits at the front. -/
def spanDigits (cs : List Char) : List Char × List Char :=
  (cs.takeWhile Char.isDigit, cs.dropWhile Char.isDigit)

/-- A number without point and exponent.  Minus zero is none of the whole numbers, and neither is
what does not fit into 64 bits. -/
def wholeNumeral (negative : Bool) (significand : Nat) : Numeral :=
  if negative then
    if significand = 0 ∨ wordRange / 2 < significand then .real true significand 0
    else .whole (-(significand : Int))
  else .whole significand

/-- The exponent after its `e`: a sign and at least one digit. -/
def readExponent : Reader Int := fun cs =>
  let (negative, cs) := match cs with
    | '+' :: rest => (false, rest)
    | '-' :: rest => (true, rest)
    | _ => (false, cs)
  match cs with
  | [] => .error .ended
  | c :: _ =>
    if c.isDigit then
      let (ds, rest) := spanDigits cs
      .ok (if negative then -(digitsValue ds : Int) else (digitsValue ds : Int), rest)
    else .error .malformed

/-- What follows the digits of a number with a point or more digits than fit: an exponent or the
end. -/
def readScale (negative : Bool) (significand : Nat) (exponent : Int) : Reader Numeral := fun cs =>
  match cs with
  | c :: rest =>
    if c = 'e' ∨ c = 'E' then
      match readExponent rest with
      | .ok (e, rest) => .ok (.real negative significand (exponent + e), rest)
      | .error e => .error e
    else .ok (.real negative significand exponent, cs)
  | [] => .ok (.real negative significand exponent, cs)

/-- The places after a point: at least one digit. -/
def readPlaces (negative : Bool) (significand : Nat) (exponent : Int) : Reader Numeral := fun cs =>
  let (ds, rest) := spanDigits cs
  if ds.isEmpty then .error (if rest.isEmpty then .ended else .malformed)
  else
    let (significand, taken) := takeDigits significand 0 ds
    readScale negative significand (exponent - taken) rest

/-- What follows the whole part of a number, of which `dropped` digits did not fit. -/
def readFraction (negative : Bool) (significand dropped : Nat) : Reader Numeral := fun cs =>
  match cs with
  | c :: rest =>
    if c = '.' then readPlaces negative significand dropped rest
    else if c = 'e' ∨ c = 'E' then readScale negative significand dropped cs
    else if dropped = 0 then .ok (wholeNumeral negative significand, cs)
    else .ok (.real negative significand dropped, cs)
  | [] =>
    if dropped = 0 then .ok (wholeNumeral negative significand, cs)
    else .ok (.real negative significand dropped, cs)

/-- A number after its sign.  It starts with a digit, and nothing but a point or an exponent follows
a leading zero. -/
def readUnsigned (negative : Bool) : Reader Numeral := fun cs =>
  match cs with
  | [] => .error .ended
  | c :: rest =>
    if c = '0' then
      if (spanDigits rest).1.isEmpty then readFraction negative 0 0 rest else .error .malformed
    else if c.isDigit then
      let (ds, rest) := spanDigits cs
      let (significand, taken) := takeDigits 0 0 ds
      readFraction negative significand (ds.length - taken) rest
    else .error .malformed

/-! ### Values -/

/-- The double nearest to a power of ten. -/
def powerOfTen (k : Nat) : Float := OfScientific.ofScientific 1 false k

/-- `x * 10 ^ e` by one multiplication or division, after as many divisions by `10 ^ 308` as a very
small power needs.  There is no result beyond the range of doubles. -/
def scaleByTen : Nat → Float → Int → Option Float
  | 0, x, _ => some x
  | fuel + 1, x, e =>
    if e.natAbs ≤ 308 then
      if 0 ≤ e then
        let y := x * powerOfTen e.toNat
        if y.isInf then none else some y
      else some (x / powerOfTen e.natAbs)
    else if x == 0 then some x
    else if 0 ≤ e then none
    else scaleByTen fuel (x / powerOfTen 308) (e + 308)

/-- The double that a number denotes. -/
def Numeral.toFloat? : Numeral → Option Float
  | .whole n => some (Float.ofInt n)
  | .real negative significand exponent =>
    (scaleByTen 4 (Float.ofNat significand) exponent).map fun x => if negative then -x else x

end GlobeView.Json
