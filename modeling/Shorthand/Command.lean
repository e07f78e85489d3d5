import Shorthand.Command.Flag
import Shorthand.Command.Folder
import Shorthand.Compiler
import Shorthand.Expression.Execute
import Shorthand.Symbols.Table

/-!
# The command

The command compiles one source file.  The listing goes to standard output or to a file, and
everything else to standard error: the log, what expressions print, warnings, the table of
symbols, and at the end the failure.  A compilation that fails writes no file.

A command line is planned first, which needs no files.  The job that it asks for is then run on
the text of its source.
-/

namespace Shorthand.Command

/-! ## Environment -/

/-- The words for true, in lower case. -/
def trueWords : List String :=
  ["absolutely", "affirmative", "enable", "enabled", "positive", "t", "true", "y", "yes"]

/-- The word with its first letter in upper case. -/
def capitalized (word : String) : String :=
  match word.toList with
  | [] => ""
  | c :: rest => String.ofList (c.toUpper :: rest)

/-- Whether the text of a variable of the environment means true. -/
def isTrueWord (text : String) : Bool :=
  text == "1" || trueWords.any fun word =>
    text == word || text == word.map Char.toUpper || text == capitalized word

/-- The options before any flag is read, which the environment settles. -/
def defaults (environment : List (String × String)) : Options where
  output := "-"
  defines := []
  symbols := false
  verbose := isTrueWord ((environment.lookup "SHASM_VERBOSE").getD "")
  language := (environment.lookup "SHASM_LANG").getD ""
  help := false

/-! ## Plans -/

/-- A compilation that a command line asks for. -/
structure Job where
  source : String
  output : String
  /-- The constants that the program starts with. -/
  constants : List (String × String)
  symbols : Bool
  verbose : Bool

/-- What a command line asks for. -/
inductive Plan where
  /-- To show a text. -/
  | show (text : String)
  | job (job : Job)

/-- A definition as a name and a value: the first equality sign divides them. -/
def definition (text : String) : Except String (String × String) :=
  let chars := text.toList
  let name := chars.takeWhile (· != '=')
  match chars.dropWhile (· != '=') with
  | _ :: value =>
      if name.isEmpty then .error ("-D " ++ text ++ ": expected NAME=VALUE")
      else .ok (String.ofList name, String.ofList value)
  | [] => .error ("-D " ++ text ++ ": expected NAME=VALUE")

/-- The plan of a command line, or a message. -/
def plan (environment : List (String × String)) (args : List String) : Except String Plan := do
  let (options, words) ← readArguments (defaults environment) [] args
  if options.help then return .show (helpText (defaults environment))
  else
    match words with
    | [source] =>
        let constants ← options.defines.mapM definition
        return .job ⟨source, options.output, constants, options.symbols, options.verbose⟩
    | words =>
        .error ("accepts 1 arg(s), received " ++ toString words.length)

/-! ## Jobs -/

/-- A line of the log, which ends with a newline once. -/
def logged (line : String) : String := if line.endsWith "\n" then line else line ++ "\n"

/-- What an event shows on standard error. -/
def eventText (verbose : Bool) (event : Event) : String :=
  match event with
  | .printed line => line ++ "\n"
  | event => if verbose then (event.logLine?).elim "" logged else ""

/-- The warnings after a compilation. -/
def warningText (source : String) (warning : Failure) : String :=
  source ++ ": warning: " ++ warning.text ++ "\n"

/-- What a job came to. -/
structure Result where
  /-- What goes to standard error before a failure. -/
  notes : String
  /-- The text of the listing, or a message. -/
  outcome : Except String String

/-- Why there is no listing, in words. -/
def rejectionText : Rejection → String
  | .failure failure => failure.text
  | .fault fault => fault.message

namespace Job

/-- The compiler of a job. -/
def compiler (job : Job) : Compiler := { Compiler.standard with predefined := job.constants }

/-- Runs a job on its source. -/
def run (job : Job) (source : Source) : Result :=
  let report := job.compiler.compile source
  let events := String.join (report.events.map (eventText job.verbose))
  let warnings := String.join (report.warnings.map (warningText job.source))
  match report.outcome with
  | .error rejection => ⟨events ++ warnings, .error (job.source ++ ": " ++ rejectionText rejection)⟩
  | .ok listing =>
      let table := String.join (listing.symbols.table.lines.map (· ++ "\n"))
      ⟨events ++ warnings ++ (if job.symbols then table else ""), .ok listing.text⟩

/-- Whether the listing goes to standard output. -/
def toStandardOutput (job : Job) : Bool := job.output == "-"

/-- The source of a job that is a directory, of which nothing can be read. -/
def directorySource (job : Job) : Source :=
  .unreadable ("read " ++ job.source ++ ": " ++ Obstacle.isDirectory.words)

end Job

/-- A file that cannot be opened, in words. -/
def openFailure (path : String) (obstacle : Obstacle) : String :=
  "open " ++ path ++ ": " ++ obstacle.words

/-! ## Running -/

/-- What a run of the command leaves. -/
structure Outcome where
  exitCode : Nat
  stdout : String
  stderr : String
  folder : Folder

/-- A run that fails with a message. -/
def failed (folder : Folder) (notes message : String) : Outcome :=
  ⟨1, "", notes ++ logged ("shasm: " ++ message), folder⟩

/-- Runs a job in a folder. -/
def runJob (job : Job) (folder : Folder) : Outcome :=
  match folder.read job.source with
  | .error obstacle => failed folder "" (openFailure job.source obstacle)
  | .ok text? =>
      let result := job.run (text?.elim job.directorySource Source.ofText)
      match result.outcome with
      | .error message => failed folder result.notes message
      | .ok text =>
          if job.toStandardOutput then ⟨0, text, result.notes, folder⟩
          else
            match folder.write job.output text with
            | .error obstacle => failed folder result.notes (openFailure job.output obstacle)
            | .ok folder => ⟨0, "", result.notes, folder⟩

/-- Runs the command in a folder. -/
def run (environment : List (String × String)) (args : List String) (folder : Folder) : Outcome :=
  match plan environment args with
  | .error message => failed folder "" message
  | .ok (.show text) => ⟨0, text, "", folder⟩
  | .ok (.job job) => runJob job folder

end Shorthand.Command
