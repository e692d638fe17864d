/-
The program: fetches the files of a job, does it, stores and prints what comes out.
-/
import AccessibleWalk.CommandLine

namespace AccessibleWalk.CommandLine

/-- the words of the system for a failure -/
def systemText : IO.Error → String
  | .noFileOrDirectory .. => missingFile
  | .permissionDenied .. => lockedFile
  | other => toString other

/-- what a file holds -/
def fetch (file : String) : IO (Except String ByteArray) := do
  try
    return .ok (← IO.FS.readBinFile file)
  catch e =>
    return .error (systemText e)

/-- writes the output file of an outcome, if it has one -/
def store (o : Outcome) : IO Outcome := do
  match o.written with
  | none => return o
  | some (file, text) =>
    try
      IO.FS.writeFile file text
      return o
    catch e =>
      return Outcome.unstored (systemText e)

/-- does a job and reports it -/
def perform (job : Job) : IO UInt32 := do
  let config ← fetch (job.configFile.getD "")
  let edges ← fetch job.edgesFile
  let disk : Disk := fun file => if some file = job.configFile then config else edges
  let o ← store (job.run disk)
  IO.print o.printed
  match o.failure with
  | some e => IO.eprintln e.message
  | none => IO.eprintln "finished."
  return o.code.toUInt32

/-- what is said about arguments that describe no job -/
def usage : String :=
  "usage: score --edges-file FILE [--configuration-file FILE] [--mode MODE] [--wheelchair] [--output-file FILE]"

end AccessibleWalk.CommandLine

open AccessibleWalk.CommandLine in
def main (arguments : List String) : IO UInt32 := do
  match job? arguments with
  | some job => perform job
  | none =>
    IO.eprintln usage
    return unusableCode.toUInt32
