import GlobeView.Json.Skip

/-! # Readers by shape

A value is read by the shape that is wanted.  A record may be written as an object, whose keys come
in any order and may include unknown ones, or as a list of its fields in the order of declaration. -/

namespace GlobeView.Json

/-! ### Scalars -/

/-- The fault of a value that is not of the wanted type.  A scalar is read first, so that it may also
turn out to be no JSON. -/
def wrongType : List Char → Fault
  | [] => .malformed
  | c :: rest =>
    let after {β : Type} (r : Except Fault β) : Fault := match r with
      | .ok _ => .invalidType
      | .error e => e
    let number (negative : Bool) (cs : List Char) : Fault := match readUnsigned negative cs with
      | .ok (n, _) => if n.toFloat?.isSome then .invalidType else .malformed
      | .error e => e
    if c = 'n' then after (keyword ['u', 'l', 'l'] rest)
    else if c = 't' then after (keyword ['r', 'u', 'e'] rest)
    else if c = 'f' then after (keyword ['a', 'l', 's', 'e'] rest)
    else if c = '-' then number true rest
    else if c.isDigit then number false (c :: rest)
    else if c = '"' then after (readString rest)
    else if c = '[' || c = '\x7b' then .invalidType
    else .malformed

/-- A number as it is written, with the double it denotes; one beyond the range of doubles is
refused. -/
def numeral : Reader (Numeral × Float) := fun cs =>
  let valued : Except Fault (Numeral × List Char) → Except Fault ((Numeral × Float) × List Char)
    | .error e => .error e
    | .ok (n, rest) => match n.toFloat? with
      | some x => .ok ((n, x), rest)
      | none => .error .malformed
  match skipBlanks cs with
  | [] => .error .ended
  | c :: rest =>
    if c = '-' then valued (readUnsigned true rest)
    else if c.isDigit then valued (readUnsigned false (c :: rest))
    else .error (wrongType (c :: rest))

/-- A double. -/
def float : Reader Float := fun cs =>
  match numeral cs with
  | .ok ((_, x), rest) => .ok (x, rest)
  | .error e => .error e

/-- A byte: a whole number from 0 to 255. -/
def byte : Reader UInt8 := fun cs =>
  match numeral cs with
  | .error e => .error e
  | .ok ((.whole n, _), rest) =>
    if 0 ≤ n ∧ n ≤ 255 then .ok (n.toNat.toUInt8, rest) else .error .invalidValue
  | .ok ((.real _ _ _, _), _) => .error .invalidType

/-- True or false. -/
def bool : Reader Bool := fun cs =>
  match skipBlanks cs with
  | [] => .error .ended
  | c :: rest =>
    if c = 't' then (keyword ['r', 'u', 'e'] rest).map fun rest => (true, rest)
    else if c = 'f' then (keyword ['a', 'l', 's', 'e'] rest).map fun rest => (false, rest)
    else .error (wrongType (c :: rest))

/-- A string. -/
def string : Reader String := fun cs =>
  match skipBlanks cs with
  | [] => .error .ended
  | c :: rest => if c = '"' then readString rest else .error (wrongType (c :: rest))

/-- Nothing. -/
def null : Reader Unit := fun cs =>
  match skipBlanks cs with
  | [] => .error .ended
  | c :: rest =>
    if c = 'n' then (keyword ['u', 'l', 'l'] rest).map fun rest => ((), rest)
    else .error (wrongType (c :: rest))

/-- A value or null. -/
def optional {β : Type} (r : Reader β) : Reader (Option β) := fun cs =>
  match skipBlanks cs with
  | 'n' :: rest => (keyword ['u', 'l', 'l'] rest).map fun rest => (none, rest)
  | cs => match r cs with
    | .ok (v, rest) => .ok (some v, rest)
    | .error e => .error e

/-! ### Lists -/

/-- Goes to the next element of a list, past the comma in front of all but the first.  Answers
whether there is one; at the end of the list the closing mark is left. -/
def nextElement (first : Bool) (cs : List Char) : Except Fault (Bool × List Char) :=
  match skipBlanks cs with
  | [] => .error .ended
  | c :: rest =>
    if c = ']' then .ok (false, c :: rest)
    else if first then .ok (true, c :: rest)
    else if c = ',' then
      match skipBlanks rest with
      | [] => .error .ended
      | d :: rest => if d = ']' then .error .malformed else .ok (true, d :: rest)
    else .error .malformed

/-- The closing mark of a list whose elements are all read. -/
def endList (cs : List Char) : Except Fault (List Char) :=
  match skipBlanks cs with
  | [] => .error .ended
  | c :: rest => if c = ']' then .ok rest else .error .malformed

/-- Elements up to the end of a list, so many at most. -/
def elements {β : Type} (r : Reader β) : Nat → Bool → Reader (List β)
  | 0, _, _ => .error .malformed
  | fuel + 1, first, cs =>
    match nextElement first cs with
    | .error e => .error e
    | .ok (false, rest) => (endList rest).map fun rest => ([], rest)
    | .ok (true, rest) =>
      match r rest with
      | .error e => .error e
      | .ok (v, rest) =>
        match elements r fuel false rest with
        | .error e => .error e
        | .ok (vs, rest) => .ok (v :: vs, rest)

/-- A list of values of one shape. -/
def list {β : Type} (r : Reader β) : Reader (List β) := fun cs =>
  match skipBlanks cs with
  | [] => .error .ended
  | c :: rest =>
    if c = '[' then elements r (rest.length + 1) true rest else .error (wrongType (c :: rest))

/-- A list of exactly two values. -/
def pair {β γ : Type} (r : Reader β) (s : Reader γ) : Reader (β × γ) := fun cs =>
  match skipBlanks cs with
  | [] => .error .ended
  | c :: rest =>
    if c = '[' then do
      let (more, rest) ← nextElement true rest
      if !more then .error .invalidLength
      else
        let (a, rest) ← r rest
        let (more, rest) ← nextElement false rest
        if !more then .error .invalidLength
        else
          let (b, rest) ← s rest
          let rest ← endList rest
          .ok ((a, b), rest)
    else .error (wrongType (c :: rest))

/-! ### Records -/

/-- A field of a record of type `ρ`. -/
structure RecordField (ρ : Type) where
  name : String
  /-- Whether the record cannot do without it. -/
  required : Bool
  /-- Reads a value and puts it into the record. -/
  read : Reader (ρ → ρ)

/-- A field whose value is read by `r`. -/
def RecordField.of {ρ β : Type} (name : String) (required : Bool) (r : Reader β) (put : β → ρ → ρ) :
    RecordField ρ where
  name := name
  required := required
  read := fun cs => match r cs with
    | .ok (v, rest) => .ok (put v, rest)
    | .error e => .error e

/-- The key of a member; no other value will do. -/
def key : Reader String := fun cs =>
  match skipBlanks cs with
  | [] => .error .ended
  | c :: rest => if c = '"' then readString rest else .error .malformed

/-- Goes to the next key of an object, past the comma in front of all but the first, and reads it.
At the end of the object the closing mark is taken. -/
def nextKey (first : Bool) (cs : List Char) : Except Fault (Option String × List Char) :=
  let present (cs : List Char) := (key cs).map fun (k, rest) => (some k, rest)
  match skipBlanks cs with
  | [] => .error .ended
  | c :: rest =>
    if c = '\x7d' then .ok (none, rest)
    else if first then present (c :: rest)
    else if c = ',' then present rest
    else .error .malformed

/-- The colon between a key and its value. -/
def colon (cs : List Char) : Except Fault (List Char) :=
  match skipBlanks cs with
  | [] => .error .ended
  | c :: rest => if c = ':' then .ok rest else .error .malformed

/-- Members up to the end of an object, so many at most.  The keys of the fields that were read are
in `seen`. -/
def members {ρ : Type} (fields : List (RecordField ρ)) :
    Nat → Bool → List String → ρ → Reader ρ
  | 0, _, _, _, _ => .error .malformed
  | fuel + 1, first, seen, record, cs =>
    match nextKey first cs with
    | .error e => .error e
    | .ok (none, rest) =>
      match fields.find? fun f => f.required && !seen.contains f.name with
      | some f => .error (.missingField f.name)
      | none => .ok (record, rest)
    | .ok (some key, rest) =>
      match fields.find? (·.name == key) with
      | some f =>
        if seen.contains key then .error (.duplicateField key)
        else do
          let rest ← colon rest
          let (put, rest) ← f.read rest
          members fields fuel false (key :: seen) (put record) rest
      | none => do
        let rest ← colon rest
        let (_, rest) ← skipValue rest
        members fields fuel false seen record rest

/-- The fields of a record written as a list.  Trailing fields that are not required may be left
out. -/
def positional {ρ : Type} : List (RecordField ρ) → Bool → ρ → Reader ρ
  | [], _, record, cs => (endList cs).map fun rest => (record, rest)
  | f :: fs, first, record, cs =>
    match nextElement first cs with
    | .error e => .error e
    | .ok (false, rest) =>
      if f.required then .error .invalidLength else positional fs first record rest
    | .ok (true, rest) =>
      match f.read rest with
      | .error e => .error e
      | .ok (put, rest) => positional fs false (put record) rest

/-- A record; `blank` holds the values of the fields that are not written. -/
def record {ρ : Type} (fields : List (RecordField ρ)) (blank : ρ) : Reader ρ := fun cs =>
  match skipBlanks cs with
  | [] => .error .ended
  | c :: rest =>
    if c = '\x7b' then members fields (rest.length + 1) true [] blank rest
    else if c = '[' then positional fields true blank rest
    else .error (wrongType (c :: rest))

/-! ### Choices -/

/-- One of a few names. -/
def choice {β : Type} (options : List (String × β)) (name : String) : Except Fault β :=
  match options.find? (·.1 == name) with
  | some (_, v) => .ok v
  | none => .error (.unknownVariant name)

/-- A name out of a few, either alone or as the only key of an object whose value is null. -/
def oneOf {β : Type} (options : List (String × β)) : Reader β := fun cs =>
  match skipBlanks cs with
  | [] => .error .ended
  | c :: rest =>
    if c = '"' then do
      let (name, rest) ← readString rest
      let v ← choice options name
      .ok (v, rest)
    else if c = '\x7b' then do
      let (name, rest) ← key rest
      let v ← choice options name
      let rest ← colon rest
      let (_, rest) ← null rest
      match skipBlanks rest with
      | [] => .error .ended
      | c :: rest => if c = '\x7d' then .ok (v, rest) else .error .malformed
    else .error .malformed

/-! ### Whole texts -/

/-- Reads a text that holds one value and nothing else. -/
def parse {β : Type} (r : Reader β) (text : String) : Except Fault β :=
  match r text.toList with
  | .error e => .error e
  | .ok (v, rest) => if (skipBlanks rest).isEmpty then .ok v else .error .malformed

end GlobeView.Json
