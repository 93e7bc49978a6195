import GlobeView.Text.Characters

/-! # Paths

A path is a row of names between slashes.  One dot stands for the folder that was reached, two dots
for the one around it; the root is its own surrounding. -/

namespace GlobeView.CommandLine

/-- Where something is: the names that lead there from the root. -/
abbrev Place := List String

/-- What is wrong with a path. -/
inductive PathFault where
  | missing
  | notFolder
  | isFolder
  | tooLong
deriving DecidableEq, Repr

/-- The system's messages. -/
def PathFault.message : PathFault → String
  | .missing => "No such file or directory (os error 2)"
  | .notFolder => "Not a directory (os error 20)"
  | .isFolder => "Is a directory (os error 21)"
  | .tooLong => "File name too long (os error 36)"

/-- The names of a path between its slashes. -/
def pathNames (path : String) : List String :=
  ((Text.splitAt '/' path.toList).map String.ofList).filter (· != "")

/-- Whether a path begins at the root. -/
def isAbsolute (path : String) : Bool := path.toList.head? = some '/'

/-- Whether a path ends in a slash, so that it can only be meant for a folder. -/
def meansFolder (path : String) : Bool := path.toList.getLast? = some '/'

/-- The most bytes of a path. -/
def pathLimit : Nat := 4095

/-- The most bytes of a name. -/
def nameLimit : Nat := 255

/-- One step from a folder: one dot stays, two dots go out, except from the root. -/
def stepTo (place : Place) (name : String) : Except PathFault Place :=
  if name = "." then .ok place
  else if name = ".." then .ok place.dropLast
  else if nameLimit < name.utf8ByteSize then .error .tooLong
  else .ok (place ++ [name])

end GlobeView.CommandLine
