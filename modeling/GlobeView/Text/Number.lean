import GlobeView.Json.Numeral

/-! # Numbers in plain text

A count is a row of digits, a float a decimal with an optional point and exponent or one of the
words for an infinite or undefined number.  The whole text has to be the number. -/

namespace GlobeView.Text

/-- Why a text is no number. -/
inductive NumberFault where
  | emptyCount
  | invalidDigit
  | tooLarge
  | emptyFloat
  | invalidFloat
deriving DecidableEq, Repr

def NumberFault.message : NumberFault → String
  | .emptyCount => "cannot parse integer from empty string"
  | .invalidDigit => "invalid digit found in string"
  | .tooLarge => "number too large to fit in target type"
  | .emptyFloat => "cannot parse float from empty string"
  | .invalidFloat => "invalid float literal"

/-- Takes up digits from the left; each has to be one, and the count has to stay below `2 ^ 64`. -/
def takeCount (n : Nat) : List Char → Except NumberFault Nat
  | [] => .ok n
  | c :: rest =>
    if c.isDigit then
      let next := n * 10 + Json.digitValue c
      if next < wordRange then takeCount next rest else .error .tooLarge
    else .error .invalidDigit

/-- A count below `2 ^ 64`, perhaps with a plus sign. -/
def parseCount (cs : List Char) : Except NumberFault Nat :=
  match cs with
  | [] => .error .emptyCount
  | ['+'] => .error .invalidDigit
  | '+' :: rest => takeCount 0 rest
  | cs => takeCount 0 cs

/-- The words for numbers that are not finite, in lower case. -/
def floatWord? (cs : List Char) : Option Float :=
  match String.ofList (cs.map Char.toLower) with
  | "inf" => some (1.0 / 0.0)
  | "infinity" => some (1.0 / 0.0)
  | "nan" => some (0.0 / 0.0)
  | _ => none

/-- The exponent behind a mantissa: nothing, or a mark, a sign and digits up to the end. -/
def parseExponent? (cs : List Char) : Option Int :=
  match cs with
  | [] => some 0
  | c :: rest =>
    if c = 'e' || c = 'E' then
      match Json.readExponent rest with
      | .ok (e, []) => some e
      | _ => none
    else none

/-- The decimal `digits * 10 ^ e` as the nearest double. -/
def ofDecimal (digits : Nat) (e : Int) : Float :=
  if 0 ≤ e then OfScientific.ofScientific digits false e.toNat
  else OfScientific.ofScientific digits true e.natAbs

/-- A decimal without sign: digits with an optional point among or around them, and an exponent. -/
def parseDecimal? (cs : List Char) : Option Float :=
  let (whole, rest) := Json.spanDigits cs
  let (places, rest) := match rest with
    | '.' :: rest => Json.spanDigits rest
    | _ => ([], rest)
  if whole.isEmpty && places.isEmpty then none
  else (parseExponent? rest).map fun e =>
    ofDecimal (Json.digitsValue (whole ++ places)) (e - places.length)

/-- A float, perhaps with a sign. -/
def parseFloat (cs : List Char) : Except NumberFault Float :=
  let (negative, size) := match cs with
    | '-' :: rest => (true, rest)
    | '+' :: rest => (false, rest)
    | _ => (false, cs)
  if cs.isEmpty then .error .emptyFloat
  else match (floatWord? size).orElse fun _ => parseDecimal? size with
    | some x => .ok (if negative then -x else x)
    | none => .error .invalidFloat

end GlobeView.Text
