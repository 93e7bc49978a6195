import GlobeView.CommandLine.Path
import GlobeView.CommandLine.Run

/-! # A folder in memory

Text files in a small tree of folders, as a program finds it that is started in one of them.

A path is walked from left to right, from the root if it begins with a slash and else from the
folder of the program.  A step out of what is no folder is a fault, and the first fault counts. -/

namespace GlobeView.CommandLine

/-- The folder in which the program is started. -/
def workPlace : Place := ["tmp", "work"]

/-- The folders at the root. -/
def rootFolders : List String :=
  ["bin", "boot", "dev", "etc", "home", "lib", "media", "mnt", "opt", "proc", "root", "run", "sbin",
   "srv", "sys", "tmp", "usr", "var"]

/-- The file that is always empty. -/
def nullDevice : Place := ["dev", "null"]

/-- The output of the program as a file. -/
def outputDevice : Place := ["dev", "stdout"]

/-! ### Files -/

/-- Where a path begins. -/
def pathStart (path : String) : Place := if isAbsolute path then [] else workPlace

/-- Text files by their place, and what was written to the output. -/
structure Folder where
  files : List (Place × String) := []
  printed : String := ""
deriving DecidableEq, Repr

namespace Folder

/-- A folder with files by name. -/
def ofFiles (files : List (String × String)) : Folder :=
  { files := files.map fun (name, text) => (workPlace ++ pathNames name, text) }

/-- Whether a place is a folder: one that is always there, or one that has a file in it. -/
def isFolder (f : Folder) (place : Place) : Bool :=
  place.isPrefixOf workPlace || rootFolders.any (fun name => place == [name]) ||
    f.files.any fun (file, _) => place.isPrefixOf file && place != file

/-- The text of the file at a place. -/
def text? (f : Folder) (place : Place) : Option String :=
  if place = nullDevice then some "" else (f.files.find? (·.1 == place)).map (·.2)

/-- Where names lead from a place. -/
def walk (f : Folder) : Place → List String → Except PathFault Place
  | place, [] => .ok place
  | place, name :: names =>
    if f.isFolder place then do
      let next ← stepTo place name
      f.walk next names
    else .error (if (f.text? place).isSome then .notFolder else .missing)

/-- The text at the end of a path. -/
def lookUp (f : Folder) (path : String) : Except PathFault String :=
  if pathLimit < path.utf8ByteSize then .error .tooLong
  else do
    let names := pathNames path ++ (if meansFolder path then ["."] else [])
    let place ← f.walk (pathStart path) names
    if f.isFolder place then .error .isFolder
    else match f.text? place with
      | some text => .ok text
      | none => .error .missing

/-- Where a text can be put by a path.  A new file has to have a name. -/
def target (f : Folder) (path : String) : Except PathFault Place :=
  if pathLimit < path.utf8ByteSize then .error .tooLong
  else do
    let names := pathNames path
    let outer ← f.walk (pathStart path) (names.dropLast ++ ["."])
    if meansFolder path && names.getLast?.any fun name => name != "." && name != ".." then
      .error .isFolder
    else
      let place ← f.walk outer (names.getLast?.toList)
      if f.isFolder place then .error .isFolder else .ok place

/-- Puts a text where there is room for one. -/
def put (f : Folder) (place : Place) (text : String) : Folder :=
  if place = nullDevice then f
  else if place = outputDevice then { f with printed := f.printed ++ text }
  else { f with files := (place, text) :: f.files.filter (·.1 != place) }

def read (f : Folder) (path : String) : Except String String :=
  (f.lookUp path).mapError PathFault.message

def write (f : Folder) (path text : String) : Except String Unit × Folder :=
  match f.target path with
  | .error fault => (.error fault.message, f)
  | .ok place => (.ok (), f.put place text)

/-- Runs the program in a folder. -/
def run (args : List String) (f : Folder) : Outcome × Folder :=
  let disk : Disk (StateM Folder) :=
    { read := fun path f => (f.read path, f)
      write := fun path text f => f.write path text }
  let (outcome, f) := execute disk args f
  ({ outcome with output := f.printed ++ outcome.output }, f)

end Folder
end GlobeView.CommandLine
