import Shorthand.Command

/-!
# The program

Reads the command line, the environment and the source file, and writes what the command says.
-/

open Shorthand Shorthand.Command

/-- Why a file could not be used. -/
def reasonOf : IO.Error → String
  | .noFileOrDirectory .. => Obstacle.missing.words
  | .permissionDenied .. => "permission denied"
  | .inappropriateType .. => Obstacle.isDirectory.words
  | error => toString error

/-- Ends with a message. -/
def giveUp (message : String) : IO UInt32 := do
  IO.eprint (logged ("shasm: " ++ message))
  return 1

/-- Writes the listing of a job to its file. -/
def writeListing (job : Job) (text : String) : IO UInt32 := do
  try
    IO.FS.writeFile job.output text
    return 0
  catch error => giveUp ("open " ++ job.output ++ ": " ++ reasonOf error)

/-- Runs a job on the source that was read. -/
def runOn (job : Job) (source : Source) : IO UInt32 := do
  let result := job.run source
  IO.eprint result.notes
  match result.outcome with
  | .error message => giveUp message
  | .ok text =>
      if job.toStandardOutput then
        IO.print text
        return 0
      else writeListing job text

/-- The bytes of a file, or why there are none. -/
def readBytes (path : String) : IO (Except IO.Error ByteArray) := do
  try
    return .ok (← IO.FS.readBinFile path)
  catch error => return .error error

/-- Runs a job. -/
def runFile (job : Job) : IO UInt32 := do
  match ← readBytes job.source with
  | .ok bytes => runOn job (.ofBytes bytes.toList)
  | .error (.inappropriateType ..) => runOn job job.directorySource
  | .error error => giveUp ("open " ++ job.source ++ ": " ++ reasonOf error)

/-- The variables of the environment that the command knows. -/
def knownEnvironment : IO (List (String × String)) := do
  let mut known : List (String × String) := []
  for name in ["SHASM_VERBOSE", "SHASM_LANG"] do
    if let some value ← IO.getEnv name then known := (name, value) :: known
  return known

def main (args : List String) : IO UInt32 := do
  match plan (← knownEnvironment) args with
  | .error message => giveUp message
  | .ok (.show text) =>
      IO.print text
      return 0
  | .ok (.job job) => runFile job
