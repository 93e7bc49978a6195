import GlobeView.Json.Numeral
import GlobeView.Json.Quoted

/-! # Writing JSON

A value is written either compactly or with one entry a line, indented by two blanks.  Members keep
their order; a number that is not finite is written as null. -/

namespace GlobeView.Json

/-- A value to be written. -/
inductive Value where
  | null
  | bool (b : Bool)
  | count (n : Nat)
  | number (x : Float)
  | text (s : String)
  | list (items : List Value)
  | object (members : List (String × Value))

namespace Value

/-- The text of a number. -/
def numberText (x : Float) : List Char :=
  if x.isFinite then (finiteText x).toList else ['n', 'u', 'l', 'l']

/-- The text of a value that has no parts. -/
def scalarText : Value → List Char
  | .null => ['n', 'u', 'l', 'l']
  | .bool true => ['t', 'r', 'u', 'e']
  | .bool false => ['f', 'a', 'l', 's', 'e']
  | .count n => (toString n).toList
  | .number x => numberText x
  | .text s => quote s
  | .list _ => []
  | .object _ => []

mutual

/-- A value without white space. -/
def compactChars : Value → List Char
  | .list items => '[' :: compactItems true items ++ [']']
  | .object ms => '\x7b' :: compactMembers true ms ++ ['\x7d']
  | v => scalarText v

/-- Items with commas between them. -/
def compactItems (first : Bool) : List Value → List Char
  | [] => []
  | v :: vs => (if first then [] else [',']) ++ compactChars v ++ compactItems false vs

/-- Members with commas between them. -/
def compactMembers (first : Bool) : List (String × Value) → List Char
  | [] => []
  | (k, v) :: ms =>
    (if first then [] else [',']) ++ quote k ++ ':' :: compactChars v ++ compactMembers false ms

end

/-- A new line at a depth. -/
def newLine (depth : Nat) : List Char := '\n' :: List.replicate (2 * depth) ' '

mutual

/-- A value with one entry a line, inside `depth` brackets. -/
def prettyChars (depth : Nat) : Value → List Char
  | .list [] => ['[', ']']
  | .list (v :: vs) => '[' :: prettyItems (depth + 1) true (v :: vs) ++ newLine depth ++ [']']
  | .object [] => ['\x7b', '\x7d']
  | .object (m :: ms) =>
    '\x7b' :: prettyMembers (depth + 1) true (m :: ms) ++ newLine depth ++ ['\x7d']
  | v => scalarText v

/-- Items, each on a line of its own. -/
def prettyItems (depth : Nat) (first : Bool) : List Value → List Char
  | [] => []
  | v :: vs =>
    (if first then [] else [',']) ++ newLine depth ++ prettyChars depth v ++
      prettyItems depth false vs

/-- Members, each on a line of its own. -/
def prettyMembers (depth : Nat) (first : Bool) : List (String × Value) → List Char
  | [] => []
  | (k, v) :: ms =>
    (if first then [] else [',']) ++ newLine depth ++ quote k ++ ':' :: ' ' ::
      prettyChars depth v ++ prettyMembers depth false ms

end

/-- The compact text of a value. -/
def compact (v : Value) : String := String.ofList v.compactChars

/-- The text of a value with one entry a line. -/
def pretty (v : Value) : String := String.ofList (v.prettyChars 0)

end Value
end GlobeView.Json
