import Shorthand.Expression.Letters
import Shorthand.Expression.Search
import Shorthand.Expression.Split
import Shorthand.Expression.Template

/-!
# The functions that belong to texts

Texts can be searched, changed, taken apart, filled with values, and seen as sequences.
-/

namespace Shorthand.Expression

/-! ## Arguments -/

/-- A value that is a text. -/
def Run.text : Value → Run (List UInt8)
  | .string bytes => pure bytes
  | _ => failure

/-- The only argument, a text. -/
def Args.text (args : Args) : Run (List UInt8) := do Run.text (← args.one)

/-- A list of texts. -/
def newTexts (texts : List (List UInt8)) : Run Value := Run.newList (texts.map Value.string)

/-! ## Searching -/

/-- The part of a text between two bounds, and where it starts. -/
def window (text : List UInt8) (low high : Option Value) : Run (List UInt8 × Nat) := do
  let (start, stop) ← bounds text.length low high
  return ((text.take stop.toNat).drop start.toNat, start.toNat)

/-- A text that is searched for, with optional bounds of the search. -/
def search (text : List UInt8) (args : Args) : Run (List UInt8 × List UInt8 × Nat) := do
  match ← args.between 1 3 with
  | .string part :: limits =>
      let (within, start) ← window text limits[0]? limits[1]?
      return (part, within, start)
  | _ => failure

/-- The place of a part of a text. -/
def locate (text : List UInt8) (args : Args) (find? : List UInt8 → List UInt8 → Option Nat) :
    Run (Option Int) := do
  let (part, within, start) ← search text args
  return (find? part within).map fun k => ((start + k : Nat) : Int)

/-- Whether one of some texts passes a test; the first one that does decides. -/
def anyText (test : List UInt8 → Bool) : List Value → Run Bool
  | [] => pure false
  | .string part :: rest => if test part then pure true else anyText test rest
  | _ :: _ => failure

/-- Whether a text, or one of those of a tuple, stands at an end of a text. -/
def standsAt (text : List UInt8) (args : Args) (test : List UInt8 → List UInt8 → Bool) :
    Run Value := do
  match ← args.between 1 3 with
  | x :: limits =>
      let (within, _) ← window text limits[0]? limits[1]?
      match x with
      | .string part => return .bool (test part within)
      | .tuple parts => return .bool (← anyText (fun part => test part within) parts)
      | _ => failure
  | _ => failure

/-! ## Taking apart -/

/-- The text before a separator, the separator, and the text after it.  Without an occurrence
the whole text is the part that is given. -/
def dividedAt (text : List UInt8) (args : Args)
    (find? : List UInt8 → List UInt8 → Option Nat) (wholeFirst : Bool) : Run Value := do
  let separator ← args.text
  Run.require !separator.isEmpty
  let parts :=
    match find? separator text with
    | some place =>
        let (before, after) := around separator text place
        [before, separator, after]
    | none => if wholeFirst then [text, [], []] else [[], [], text]
  return .tuple (parts.map Value.string)

/-- The words of a text, or its parts at a separator, up to a limit: a negative one is none. -/
def divided (text : List UInt8) (args : Args)
    (words : Option Nat → List UInt8 → List (List UInt8))
    (parts : List UInt8 → Option Nat → List UInt8 → List (List UInt8)) : Run Value := do
  let given ← args.between 0 2
  let limit ← (given[1]?.elim (pure (-1)) Run.word : Run Int)
  let limit? := if limit < 0 then none else some limit.toNat
  match given with
  | [] | .none :: _ => newTexts (words limit? text)
  | separator :: _ => do
      let separator ← Run.text separator
      Run.require !separator.isEmpty
      newTexts (parts separator limit? text)

/-- A text without characters at an end: those of the argument, or white space. -/
def strippedAt (text : List UInt8) (args : Args) (side : Side) : Run Value := do
  let chars ← (← args.between 0 1)[0]?.elim (pure []) Run.text
  return .string (trimmed side (classOf (characters chars)) text)

/-- The lines of a text; the argument says whether they keep their newlines. -/
def splitLines (text : List UInt8) (args : Args) : Run Value := do
  match ← args.between 0 1 with
  | [] => newTexts (linesOf false text)
  | [.bool keepEnds] => newTexts (linesOf keepEnds text)
  | _ => failure

/-- A text without a part that stands at its start. -/
def withoutStart (part text : List UInt8) : List UInt8 :=
  if part.isPrefixOf text then text.drop part.length else text

/-- A text without a part that stands at its end. -/
def withoutEnd (part text : List UInt8) : List UInt8 :=
  if part.isSuffixOf text then text.take (text.length - part.length) else text

/-! ## Calls -/

/-- What a function makes of a text and nothing else. -/
def ofText? (text : List UInt8) : Method → Option Value
  | .capitalize => some (.string (capitalized text))
  | .codepointOrds => some (.view .codepointOrds text)
  | .codepoints => some (.view .codepoints text)
  | .elemOrds => some (.view .elemOrds text)
  | .elems => some (.view .elems text)
  | .isalnum => some (.bool (isAll isLetterOrDigit text))
  | .isalpha => some (.bool (isAll Text.isLetter text))
  | .isdigit => some (.bool (isAll Text.isDigit text))
  | .islower => some (.bool (isLowerCase text))
  | .isspace => some (.bool (isAll Text.isSpace text))
  | .istitle => some (.bool (isTitleCase text))
  | .isupper => some (.bool (isUpperCase text))
  | .lower => some (.string (lowerCase text))
  | .title => some (.string (titleCase text))
  | .upper => some (.string (upperCase text))
  | _ => none

/-- Calls a function that takes more than a text. -/
def callTextWith (text : List UInt8) (method : Method) (args : Args) : Run Value := do
  match method with
  | .count =>
      let (part, within, _) ← search text args
      return .int (occurrences part within)
  | .endswith => standsAt text args List.isSuffixOf
  | .find => return .int ((← locate text args (firstAt? · 0 ·)).getD (-1))
  | .format => return .string (← Template.fill text args)
  | .index => return .int (← Run.ofOption (← locate text args (firstAt? · 0 ·)))
  | .join =>
      let parts ← (← Run.items (← args.one)).mapM Run.text
      return .string (parts.intersperse text).flatten
  | .lstrip => strippedAt text args .left
  | .partition => dividedAt text args (firstAt? · 0 ·) true
  | .dropStart => return .string (withoutStart (← args.text) text)
  | .dropEnd => return .string (withoutEnd (← args.text) text)
  | .replace =>
      match ← args.between 2 3 with
      | [.string part, .string new] => return .string (replaced text part new (-1))
      | [.string part, .string new, count] =>
          return .string (replaced text part new (← Run.word count))
      | _ => failure
  | .rfind => return .int ((← locate text args lastAt?).getD (-1))
  | .rindex => return .int (← Run.ofOption (← locate text args lastAt?))
  | .rpartition => dividedAt text args lastAt? false
  | .rsplit => divided text args wordsFromRight partsFromRight
  | .rstrip => strippedAt text args .right
  | .split => divided text args wordsFromLeft partsFromLeft
  | .splitlines => splitLines text args
  | .startswith => standsAt text args List.isPrefixOf
  | .strip => strippedAt text args .both
  | _ => failure

/-- Calls a function that belongs to a text. -/
def callText (text : List UInt8) (method : Method) (args : Args) : Run Value := do
  match ofText? text method with
  | some value =>
      args.nothing
      return value
  | none => callTextWith text method args

end Shorthand.Expression
