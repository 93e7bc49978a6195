import GlobeView.Json.Numeral
import GlobeView.Json.Quoted

/-! # Passing over a value

The value of a key that nobody asked for only has to be JSON.  It is passed over without being kept,
to any depth: the open brackets are a stack, and `Wanted` is what has to come next. -/

namespace GlobeView.Json

/-- White space between the parts of a text. -/
def isBlank (c : Char) : Bool := c = ' ' || c = '\n' || c = '\t' || c = '\r'

/-- The text without the white space in front. -/
def skipBlanks (cs : List Char) : List Char := cs.dropWhile isBlank

/-- The rest of a keyword. -/
def keyword : List Char → List Char → Except Fault (List Char)
  | [], cs => .ok cs
  | _ :: _, [] => .error .ended
  | k :: ks, c :: cs => if c = k then keyword ks cs else .error .malformed

/-- Passes over an exponent after its `e`. -/
def skipExponent (cs : List Char) : Except Fault (List Char) :=
  let cs := match cs with
    | '+' :: rest => rest
    | '-' :: rest => rest
    | _ => cs
  let (ds, rest) := spanDigits cs
  if ds.isEmpty then .error .malformed else .ok rest

/-- Passes over what follows the places of a number. -/
def skipScale (cs : List Char) : Except Fault (List Char) :=
  match cs with
  | c :: rest => if c = 'e' ∨ c = 'E' then skipExponent rest else .ok cs
  | [] => .ok cs

/-- Passes over what follows the whole part of a number. -/
def skipFraction (cs : List Char) : Except Fault (List Char) :=
  match cs with
  | '.' :: rest =>
    let (ds, rest) := spanDigits rest
    if ds.isEmpty then .error .malformed else skipScale rest
  | _ => skipScale cs

/-- Passes over a number after its sign. -/
def skipUnsigned (cs : List Char) : Except Fault (List Char) :=
  let (ds, rest) := spanDigits cs
  match ds with
  | [] => .error .malformed
  | '0' :: _ :: _ => .error .malformed
  | _ => skipFraction rest

/-- A kind of bracket. -/
inductive Bracket where
  | list
  | object
deriving DecidableEq, Repr

/-- What has to come next. -/
inductive Wanted where
  | value
  /-- The first entry of the innermost bracket, or its end. -/
  | first
  /-- A comma or the end of the innermost bracket. -/
  | separator
  /-- A key of the innermost bracket. -/
  | key
deriving DecidableEq, Repr

/-- The closing mark of a bracket. -/
def Bracket.close : Bracket → Char
  | .list => ']'
  | .object => '}'

/-- What an entry of a bracket starts with. -/
def Bracket.entry : Bracket → Wanted
  | .list => .value
  | .object => .key

/-- Takes the start of a value: a whole scalar, or an opening bracket. -/
def skipStart (outer : List Bracket) : List Char → Except Fault (Wanted × List Bracket × List Char)
  | [] => .error .ended
  | c :: rest =>
    let scalar (r : Except Fault (List Char)) := r.map fun rest => (Wanted.separator, outer, rest)
    if c = 'n' then scalar (keyword ['u', 'l', 'l'] rest)
    else if c = 't' then scalar (keyword ['r', 'u', 'e'] rest)
    else if c = 'f' then scalar (keyword ['a', 'l', 's', 'e'] rest)
    else if c = '-' then scalar (skipUnsigned rest)
    else if c.isDigit then scalar (skipUnsigned (c :: rest))
    else if c = '"' then scalar ((skipString rest).map (·.2))
    else if c = '[' then .ok (.first, .list :: outer, rest)
    else if c = '\x7b' then .ok (.first, .object :: outer, rest)
    else .error .malformed

/-- Takes a key and its colon. -/
def skipKey (cs : List Char) : Except Fault (List Char) :=
  match skipBlanks cs with
  | [] => .error .ended
  | c :: rest =>
    if c = '"' then
      match skipString rest with
      | .error e => .error e
      | .ok (_, rest) =>
        match skipBlanks rest with
        | [] => .error .ended
        | c :: rest => if c = ':' then .ok rest else .error .malformed
    else .error .malformed

/-- Passes over the rest of a value, with so many steps at most. -/
def skipSteps : Nat → Wanted → List Bracket → List Char → Except Fault (List Char)
  | 0, _, _, _ => .error .malformed
  | fuel + 1, .value, outer, cs =>
    match skipStart outer (skipBlanks cs) with
    | .ok (wanted, outer, rest) => skipSteps fuel wanted outer rest
    | .error e => .error e
  | fuel + 1, .key, outer, cs =>
    match skipKey cs with
    | .ok rest => skipSteps fuel .value outer rest
    | .error e => .error e
  | _ + 1, .separator, [], cs => .ok cs
  | _ + 1, .first, [], cs => .ok cs
  | fuel + 1, .separator, b :: outer, cs =>
    match skipBlanks cs with
    | [] => .error .ended
    | c :: rest =>
      if c = ',' then skipSteps fuel b.entry (b :: outer) rest
      else if c = b.close then skipSteps fuel .separator outer rest
      else .error .malformed
  | fuel + 1, .first, b :: outer, cs =>
    match skipBlanks cs with
    | [] => .error .ended
    | c :: rest =>
      if c = b.close then skipSteps fuel .separator outer rest
      else skipSteps fuel b.entry (b :: outer) (c :: rest)

/-- Passes over a value; every character takes at most two steps. -/
def skipValue : Reader Unit := fun cs =>
  (skipSteps (2 * cs.length + 2) .value [] cs).map fun rest => ((), rest)

end GlobeView.Json
