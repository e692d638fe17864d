/-
The command line: one command, `score`, with its flags. A run is a function from the arguments and what the files hold
to what is printed and written, so that nothing but fetching and storing is left to do outside.
-/
import AccessibleWalk.Scoring.Run

namespace AccessibleWalk.CommandLine

/-! ## Arguments -/

/-- what a run is asked to do -/
structure Job where
  edgesFile : String
  configFile : Option String
  mode : TravelMode
  wheelchair : Bool
  outputFile : Option String

/-- the flags given so far -/
structure Flags where
  edgesFile : Option String := none
  configFile : Option String := none
  mode : Option TravelMode := none
  wheelchair : Bool := false
  outputFile : Option String := none

inductive Flag where
  | edgesFile | configFile | mode | outputFile
  deriving DecidableEq

namespace Flag

/-- the flags that take a value -/
def ofName? (name : String) : Option Flag :=
  if name = "--edges-file" then some .edgesFile
  else if name = "--configuration-file" then some .configFile
  else if name = "--mode" then some .mode
  else if name = "--output-file" then some .outputFile
  else none

end Flag

namespace Flags

/-- gives a flag a value; each flag may come once -/
def put (flags : Flags) (flag : Flag) (value : String) : Option Flags :=
  match flag with
  | .edgesFile => if flags.edgesFile.isSome then none else some { flags with edgesFile := some value }
  | .configFile => if flags.configFile.isSome then none else some { flags with configFile := some value }
  | .mode =>
    if flags.mode.isSome then none
    else (TravelMode.ofText value).toOption.map fun mode => { flags with mode := some mode }
  | .outputFile => if flags.outputFile.isSome then none else some { flags with outputFile := some value }

/-- a flag and its value in one argument -/
def putJoined (flags : Flags) (argument : String) : Option Flags :=
  let name := argument.toList.takeWhile (· != '=')
  match argument.toList.dropWhile (· != '=') with
  | [] => none
  | _ :: value => do
    let flag ← Flag.ofName? (String.ofList name)
    flags.put flag (String.ofList value)

/-- may an argument be the value of the flag before it? One that looks like a flag may not. -/
def isValue (argument : String) : Bool := argument = "-" || argument.toList.head? != some '-'

/-- takes the arguments one after the other; nothing may come behind two dashes -/
def take (flags : Flags) : List String → Option Flags
  | [] => some flags
  | argument :: rest =>
    if argument = "--" then
      if rest.isEmpty then some flags else none
    else if argument = "--wheelchair" then
      if flags.wheelchair then none else take { flags with wheelchair := true } rest
    else
      match Flag.ofName? argument, rest with
      | some flag, value :: rest =>
        if isValue value then
          match flags.put flag value with
          | some flags => take flags rest
          | none => none
        else none
      | some _, [] => none
      | none, rest =>
        match flags.putJoined argument with
        | some flags => take flags rest
        | none => none

end Flags

/-- the job that the arguments describe, if they are usable -/
def job? : List String → Option Job
  | "score" :: arguments => do
    let flags ← Flags.take {} arguments
    let edgesFile ← flags.edgesFile
    some {
      edgesFile := edgesFile
      configFile := flags.configFile
      mode := flags.mode.getD .walk
      wheelchair := flags.wheelchair
      outputFile := flags.outputFile }
  | _ => none

/-! ## Runs -/

/-- the words of the system for a file that is not there -/
def missingFile : String := "No such file or directory (os error 2)"

/-- the words of the system for a file that may not be used -/
def lockedFile : String := "Permission denied (os error 13)"

/-- what files hold, or why they cannot be read -/
abbrev Disk : Type := String → Except String ByteArray

/-- what a run leaves behind: the rows for standard output, the file it wrote, and what stopped it if something did -/
structure Outcome where
  printed : String := ""
  written : Option (String × String) := none
  failure : Option ScoringError := none

namespace Job

/-- the configuration of a job -/
def config (job : Job) (disk : Disk) : Except ScoringError ScoringConfig :=
  match job.configFile with
  | none => .ok {}
  | some file => (ScoringConfig.ofFile file (disk file)).mapError .configuration

/-- the rows of a job go to its output file, or are printed -/
def outcome (job : Job) (run : ScoringRun) : Outcome :=
  match job.outputFile with
  | none => { printed := run.csv, failure := run.failure }
  | some file => { written := some (file, run.csv), failure := run.failure }

/-- the edges of a job; making the output file empties it, so edges that stand in it are gone -/
def edges (job : Job) (bytes : ByteArray) : List UInt8 :=
  if job.outputFile = some job.edgesFile then [] else bytes.toList

/-- does a job: first the configuration, then the edges, and the rows at last -/
def run (job : Job) (disk : Disk) : Outcome :=
  match job.config disk with
  | .error e => { failure := some e }
  | .ok config =>
    match disk job.edgesFile with
    | .error reason => { failure := some (.file reason) }
    | .ok bytes => job.outcome ((Scorer.ofConfig config job.mode job.wheelchair).scoreCsv (job.edges bytes))

end Job

/-- the outcome if the output file could not be made: the run stops before its first row -/
def Outcome.unstored (reason : String) : Outcome := { failure := some (.file reason) }

/-- the exit code of a job -/
def Outcome.code (o : Outcome) : Nat := if o.failure.isSome then 1 else 0

/-- the exit code for arguments that describe no job -/
def unusableCode : Nat := 2

end AccessibleWalk.CommandLine
