/-! # What can be wrong with a JSON text

A text is read from left to right, and the first thing that does not fit is the fault.  It is either
the end of the text, or something that is no JSON at all, or JSON of another shape than the one that
is wanted. -/

namespace GlobeView.Json

/-- Why a text is refused. -/
inductive Fault where
  /-- The text ends too soon. -/
  | ended
  /-- The text is not JSON. -/
  | malformed
  /-- A value of another type. -/
  | invalidType
  /-- A number outside its range. -/
  | invalidValue
  /-- An array that is too short. -/
  | invalidLength
  | missingField (name : String)
  | duplicateField (name : String)
  /-- A string that is none of those allowed. -/
  | unknownVariant (name : String)
deriving DecidableEq, Repr

/-- The three kinds of faults. -/
inductive FaultKind where
  | ended
  | malformed
  | shape
deriving DecidableEq, Repr

namespace Fault

def kind : Fault → FaultKind
  | .ended => .ended
  | .malformed => .malformed
  | _ => .shape

/-- What is said about a wrong shape; the other faults have no words of their own. -/
def message? : Fault → Option String
  | .ended => none
  | .malformed => none
  | .invalidType => some "invalid type"
  | .invalidValue => some "invalid value"
  | .invalidLength => some "invalid length"
  | .missingField name => some ("missing field `" ++ name ++ "`")
  | .duplicateField name => some ("duplicate field `" ++ name ++ "`")
  | .unknownVariant name => some ("unknown variant `" ++ name ++ "`")

end Fault

/-- The name of a kind of fault. -/
def FaultKind.name : FaultKind → String
  | .ended => "eof"
  | .malformed => "syntax"
  | .shape => "data"

/-- A reader takes a value off the front of a text and leaves the rest. -/
abbrev Reader (β : Type) := List Char → Except Fault (β × List Char)

end GlobeView.Json
