import GlobeView.CommandLine.Path
import GlobeView.CommandLine.Run

/-! # The program

Runs the command line against the files of the system. -/

open GlobeView.CommandLine

/-- The message of a system error. -/
def systemMessage : IO.Error → String
  | .noFileOrDirectory .. => PathFault.missing.message
  | .permissionDenied .. => "Permission denied (os error 13)"
  | .inappropriateType _ 20 _ => PathFault.notFolder.message
  | .inappropriateType .. => PathFault.isFolder.message
  | .invalidArgument _ 36 _ => PathFault.tooLong.message
  | e => toString e

/-- The files of the system. -/
def systemDisk : Disk IO where
  read := fun path => do
    try return .ok (← IO.FS.readFile path)
    catch e => return .error (systemMessage e)
  write := fun path text => do
    try
      IO.FS.writeFile path text
      return .ok ()
    catch e => return .error (systemMessage e)

def main (args : List String) : IO UInt32 := do
  let outcome ← execute systemDisk args
  (← IO.getStdout).putStr outcome.output
  if !outcome.message.isEmpty then (← IO.getStderr).putStrLn outcome.message
  return outcome.exitCode.toUInt32
