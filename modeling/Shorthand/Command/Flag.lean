import Shorthand.Text.Escaped

/-!
# Flags of the command line

Flags have a long name, and some a letter.  Letters may be written together.  A value follows
its flag, in the same argument or as the next one; a switch needs none.  Flags and other
arguments may be mixed, up to an argument `--`, after which nothing is a flag.
-/

namespace Shorthand.Command

open Text

/-- The flags. -/
inductive Flag where
  /-- Defines a constant. -/
  | define
  /-- Asks for help. -/
  | help
  /-- The language of diagnostics. -/
  | language
  /-- The file that the listing goes to. -/
  | output
  /-- Asks for the table of symbols. -/
  | symbols
  /-- Asks for a log. -/
  | verbose
deriving DecidableEq, Inhabited

namespace Flag

/-- All flags, in the order of the help text. -/
def all : List Flag := [define, help, language, output, symbols, verbose]

/-- The long name. -/
def name : Flag → String
  | define => "define"
  | help => "help"
  | language => "lang"
  | output => "output"
  | symbols => "symbols"
  | verbose => "verbose"

/-- The letter, if the flag has one. -/
def letter? : Flag → Option Char
  | define => some 'D'
  | help => some 'h'
  | output => some 'o'
  | verbose => some 'v'
  | language | symbols => none

/-- Whether the flag needs no value. -/
def isSwitch : Flag → Bool
  | help | symbols | verbose => true
  | define | language | output => false

/-- The flag with a long name. -/
def ofName? (text : String) : Option Flag := all.find? fun flag => flag.name == text

/-- The flag with a letter. -/
def ofLetter? (c : Char) : Option Flag := all.find? fun flag => flag.letter? == some c

/-- The flag as it is called in a message. -/
def title (flag : Flag) : String :=
  match flag.letter? with
  | some c => "-" ++ String.singleton c ++ ", --" ++ flag.name
  | none => "--" ++ flag.name

end Flag

/-- What the flags of a command line say. -/
structure Options where
  output : String
  /-- The definitions, in order. -/
  defines : List String
  symbols : Bool
  verbose : Bool
  language : String
  help : Bool
deriving DecidableEq, Inhabited

/-! ## Values -/

/-- The truth value of a switch. -/
def truth? (text : String) : Option Bool :=
  if ["1", "t", "T", "true", "TRUE", "True"].contains text then some true
  else if ["0", "f", "F", "false", "FALSE", "False"].contains text then some false
  else none

/-- The truth value of a switch, or a message. -/
def switchValue (flag : Flag) (text : String) : Except String Bool :=
  match truth? text with
  | some value => .ok value
  | none =>
      .error ("invalid argument " ++ Escaped.text text ++ " for " ++ Escaped.text flag.title ++
        " flag: strconv.ParseBool: parsing " ++ Escaped.text text ++ ": invalid syntax")

/-- The options after a flag is given a value. -/
def Options.set (options : Options) (flag : Flag) (value : String) : Except String Options :=
  match flag with
  | .define => .ok { options with defines := options.defines ++ [value] }
  | .language => .ok { options with language := value }
  | .output => .ok { options with output := value }
  | .help => return { options with help := ← switchValue flag value }
  | .symbols => return { options with symbols := ← switchValue flag value }
  | .verbose => return { options with verbose := ← switchValue flag value }

/-! ## Arguments -/

/-- What one argument says. -/
inductive Reading where
  /-- It is no flag. -/
  | word
  /-- No argument after it is a flag. -/
  | ending
  /-- It gives flags their values.  One more flag may take its value from the next argument;
  the message is for the case that there is none. -/
  | flags (values : List (Flag × String)) (pending? : Option (Flag × String))

/-- The value of a switch that is only named. -/
def switchedOn : String := "true"

/-- Reads a flag by its long name. -/
def readLong (argument : String) (chars : List Char) : Except String Reading :=
  let name := String.ofList (chars.takeWhile (· != '='))
  if name.isEmpty || chars.head? == some '-' then .error ("bad flag syntax: " ++ argument)
  else
    match Flag.ofName? name with
    | none => .error ("unknown flag: --" ++ name)
    | some flag =>
        match chars.dropWhile (· != '=') with
        | _ :: value => .ok (.flags [(flag, String.ofList value)] none)
        | [] =>
            if flag.isSwitch then .ok (.flags [(flag, switchedOn)] none)
            else .ok (.flags [] (some (flag, "flag needs an argument: " ++ argument)))

/-- The character that the first byte of a character would be on its own. -/
def leadingByte (c : Char) : Char :=
  Char.ofNat (((String.utf8EncodeChar c).head?.map UInt8.toNat).getD 0)

/-- A letter in a message, with the letters from it on. -/
def letterIn (c : Char) (letters : List Char) : String :=
  Escaped.character (leadingByte c) ++ " in -" ++ String.ofList letters

/-- Letters that belong to a test runner and are passed over. -/
def foreignLetters : List Char := "test.".toList

/-- Reads flags by their letters; `done` are those before, the last one first. -/
def readLetters (done : List (Flag × String)) : List Char → Except String Reading
  | [] => .ok (.flags done.reverse none)
  | c :: rest =>
      if foreignLetters.isPrefixOf (c :: rest) then .ok (.flags done.reverse none)
      else
        match Flag.ofLetter? c with
        | none => .error ("unknown shorthand flag: " ++ letterIn c (c :: rest))
        | some flag =>
            match rest with
            | '=' :: d :: value =>
                .ok (.flags ((flag, String.ofList (d :: value)) :: done).reverse none)
            | rest =>
                if flag.isSwitch then readLetters ((flag, switchedOn) :: done) rest
                else if rest.isEmpty then
                  let needs := "flag needs an argument: " ++ letterIn c [c]
                  .ok (.flags done.reverse (some (flag, needs)))
                else .ok (.flags ((flag, String.ofList rest) :: done).reverse none)

/-- Reads an argument. -/
def readArgument (argument : String) : Except String Reading :=
  match argument.toList with
  | ['-', '-'] => .ok .ending
  | '-' :: '-' :: chars => readLong argument chars
  | ['-'] => .ok .word
  | '-' :: chars => readLetters [] chars
  | _ => .ok .word

/-- The options after flags are given values. -/
def setAll (options : Options) : List (Flag × String) → Except String Options
  | [] => .ok options
  | (flag, value) :: rest => do
      let options ← options.set flag value
      setAll options rest

/-- Reads arguments; `words` are the ones before that are no flags, the last one first.  The
result are the options and the arguments that are no flags. -/
def readArguments (options : Options) (words : List String) :
    List String → Except String (Options × List String)
  | [] => .ok (options, words.reverse)
  | argument :: rest =>
      match readArgument argument with
      | .error message => .error message
      | .ok .word => readArguments options (argument :: words) rest
      | .ok .ending => .ok (options, words.reverse ++ rest)
      | .ok (.flags values pending?) =>
          match setAll options values with
          | .error message => .error message
          | .ok options =>
              match pending?, rest with
              | none, rest => readArguments options words rest
              | some (_, message), [] => .error message
              | some (flag, _), value :: rest =>
                  match options.set flag value with
                  | .error message => .error message
                  | .ok options => readArguments options words rest

/-! ## Help -/

/-- What a flag is for. -/
def Flag.purpose : Flag → String
  | define => "predefine a constant, as NAME=VALUE"
  | help => "help for shasm"
  | language => "diagnostic language, as a BCP 47 tag"
  | output => "assembly output file"
  | symbols => "print the symbol table to standard error"
  | verbose => "verbose mode"

/-- The kind of the flag's value, for the help text. -/
def Flag.valueKind : Flag → String
  | define => " stringArray"
  | language | output => " string"
  | help | symbols | verbose => ""

/-- The value of a flag that is not given, for the help text; nothing if it is empty. -/
def defaultText (options : Options) : Flag → String
  | .language =>
      if options.language.isEmpty then "" else " (default " ++ Escaped.text options.language ++ ")"
  | .output => " (default " ++ Escaped.text options.output ++ ")"
  | .verbose => if options.verbose then " (default true)" else ""
  | .define | .help | .symbols => ""

/-- The start of the help line of a flag. -/
def Flag.usage (flag : Flag) : String :=
  (match flag.letter? with
    | some c => "  -" ++ String.singleton c ++ ", "
    | none => "      ") ++ "--" ++ flag.name ++ flag.valueKind

/-- The column where the help lines tell what flags are for. -/
def purposeColumn : Nat := (Flag.all.map fun flag => flag.usage.length).foldl max 0 + 3

/-- The help line of a flag. -/
def usageLine (defaults : Options) (flag : Flag) : String :=
  let blanks := String.ofList (List.replicate (purposeColumn - flag.usage.length) ' ')
  flag.usage ++ blanks ++ flag.purpose ++ defaultText defaults flag

/-- The help text. -/
def helpText (defaults : Options) : String :=
  String.join ((
    ["Shasm translates a shorthand assembly source file into Nios II",
     "assembly source. The output is written to standard output, or to the file",
     "given by -o. A failed compilation leaves no output file behind.",
     "", "Usage:", "  shasm [flags] source.sha", "", "Flags:"] ++
    Flag.all.map (usageLine defaults)).map (· ++ "\n"))

end Shorthand.Command
