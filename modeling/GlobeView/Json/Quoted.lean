import GlobeView.Json.Fault

/-! # Quoted strings

Writing escapes quotes, backslashes and control characters and nothing else.  Reading also takes
the other escapes; a `\u` escape of half a character has to be followed by one of the other half.
The reader walks through the text one character at a time, and `Spot` is where it stands. -/

namespace GlobeView.Json

/-! ### Writing -/

/-- The digit of a value below sixteen. -/
def hexDigit (n : Nat) : Char :=
  if n < 10 then Char.ofNat ('0'.toNat + n) else Char.ofNat ('a'.toNat + (n - 10))

/-- A character as it stands between quotes. -/
def escape (c : Char) : List Char :=
  if c = '"' then ['\\', '"']
  else if c = '\\' then ['\\', '\\']
  else if c = '\n' then ['\\', 'n']
  else if c = '\r' then ['\\', 'r']
  else if c = '\t' then ['\\', 't']
  else if c.toNat = 8 then ['\\', 'b']
  else if c.toNat = 12 then ['\\', 'f']
  else if c.toNat < 32 then
    ['\\', 'u', '0', '0', hexDigit (c.toNat / 16), hexDigit (c.toNat % 16)]
  else [c]

/-- A string in quotes. -/
def quote (s : String) : List Char := '"' :: s.toList.flatMap escape ++ ['"']

/-! ### Reading -/

/-- The value of a hexadecimal digit. -/
def hexValue? (c : Char) : Option Nat :=
  if c.isDigit then some (c.toNat - '0'.toNat)
  else if 'a' ≤ c ∧ c ≤ 'f' then some (c.toNat - 'a'.toNat + 10)
  else if 'A' ≤ c ∧ c ≤ 'F' then some (c.toNat - 'A'.toNat + 10)
  else none

/-- What a backslash and one more character stand for. -/
def simpleEscape? (c : Char) : Option Char :=
  if c = '"' then some '"'
  else if c = '\\' then some '\\'
  else if c = '/' then some '/'
  else if c = 'b' then some (Char.ofNat 8)
  else if c = 'f' then some (Char.ofNat 12)
  else if c = 'n' then some '\n'
  else if c = 'r' then some '\r'
  else if c = 't' then some '\t'
  else none

/-- First halves of characters beyond the first plane. -/
def isHighHalf (n : Nat) : Bool := 0xD800 ≤ n && n ≤ 0xDBFF

/-- Second halves of characters beyond the first plane. -/
def isLowHalf (n : Nat) : Bool := 0xDC00 ≤ n && n ≤ 0xDFFF

/-- The character with the two halves. -/
def joinHalves (high low : Nat) : Char :=
  Char.ofNat ((high - 0xD800) * 1024 + (low - 0xDC00) + 0x10000)

/-- Where in a string a reader stands. -/
inductive Spot where
  /-- Between two characters. -/
  | text
  /-- After a backslash. -/
  | backslash
  /-- In the digits of a `\u` escape, perhaps after one of a first half; so many digits are read and
  they have this value. -/
  | hex (high : Option Nat) (digits value : Nat)
  /-- After the escape of a first half. -/
  | half (high : Nat)
  /-- After the escape of a first half and a backslash. -/
  | halfBackslash (high : Nat)
deriving DecidableEq, Repr

/-- What happens at the next character. -/
inductive Move where
  /-- The string is over. -/
  | close
  /-- A character of the string is complete. -/
  | emit (c : Char)
  | goTo (spot : Spot)
  | fail (fault : Fault)
deriving DecidableEq, Repr

/-- Four digits have to follow; a text that is shorter than that ends too soon. -/
def enterHex (high : Option Nat) (rest : List Char) : Move :=
  if rest.foldl (fun n c => n + c.utf8Size) 0 < 4 then .fail .ended else .goTo (.hex high 0 0)

/-- A `\u` escape is complete.  In a string that is not kept halves need no partner. -/
def leaveHex (kept : Bool) (high : Option Nat) (value : Nat) : Move :=
  match high with
  | none =>
    if !kept then .emit ' '
    else if isLowHalf value then .fail .malformed
    else if isHighHalf value then .goTo (.half value)
    else .emit (Char.ofNat value)
  | some high => if isLowHalf value then .emit (joinHalves high value) else .fail .malformed

/-- What character `c`, with `rest` after it, means at a spot. -/
def Spot.move (kept : Bool) (c : Char) (rest : List Char) : Spot → Move
  | .text =>
    if c = '"' then .close
    else if c = '\\' then .goTo .backslash
    else if c.toNat < 32 then .fail .malformed
    else .emit c
  | .backslash =>
    if c = 'u' then enterHex none rest
    else match simpleEscape? c with
      | some d => .emit d
      | none => .fail .malformed
  | .hex high digits value =>
    match hexValue? c with
    | none => .fail .malformed
    | some d =>
      if digits = 3 then leaveHex kept high (value * 16 + d)
      else .goTo (.hex high (digits + 1) (value * 16 + d))
  | .half high => if c = '\\' then .goTo (.halfBackslash high) else .fail .malformed
  | .halfBackslash high => if c = 'u' then enterHex (some high) rest else .fail .malformed

/-- The characters up to the closing quote. -/
def readFrom (kept : Bool) : Spot → Reader (List Char)
  | _, [] => .error .ended
  | spot, c :: rest =>
    match spot.move kept c rest with
    | .close => .ok ([], rest)
    | .emit d =>
      match readFrom kept .text rest with
      | .ok (s, rest) => .ok (d :: s, rest)
      | .error e => .error e
    | .goTo spot => readFrom kept spot rest
    | .fail fault => .error fault

/-- A string after its opening quote. -/
def readString : Reader String := fun cs =>
  match readFrom true .text cs with
  | .ok (s, rest) => .ok (String.ofList s, rest)
  | .error e => .error e

/-- Passes over a string after its opening quote. -/
def skipString : Reader Unit := fun cs =>
  match readFrom false .text cs with
  | .ok (_, rest) => .ok ((), rest)
  | .error e => .error e

end GlobeView.Json
