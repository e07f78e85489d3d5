import Shorthand.Expression.Literal
import Shorthand.Text.Letter

/-!
# From expression text to tokens

Outside brackets a line has an end and an indentation; inside brackets both mean nothing.
Blank lines and comments never mean anything, and a backslash at the end of a line joins it
with the next one.  A carriage return counts as the end of a line, also together with a
newline, and a zero character outside strings as the end of the text.
-/

namespace Shorthand.Expression

open Text

/-- Whether a name may start with the character. -/
def startsName (c : Char) : Bool := c == '_' || isLetter c

/-- Whether a name may go on with the character. -/
def continuesName (c : Char) : Bool := startsName c || Literal.isDecimal c

/-- The token of a word: a keyword or a name.  Reserved words are neither. -/
def wordToken? (word : String) : Option Tok :=
  match Keyword.ofText? word with
  | some keyword => some (.keyword keyword)
  | none => if reservedWords.contains word then none else some (.name word)

/-- Reads a name or a keyword. -/
def readWord? (chars : List Char) : Option (Tok × List Char) :=
  (wordToken? (String.ofList (chars.takeWhile continuesName))).map
    (·, chars.dropWhile continuesName)

/-- Whether the character is a quote. -/
def isQuote (c : Char) : Bool := c == '"' || c == '\''

/-- Reads an operator or a punctuation mark. -/
def readMark? : List Char → Option (Mark × List Char)
  | '<' :: '<' :: '=' :: rest => some (.augment .shiftLeft, rest)
  | '>' :: '>' :: '=' :: rest => some (.augment .shiftRight, rest)
  | '/' :: '/' :: '=' :: rest => some (.augment .floorDiv, rest)
  | '=' :: '=' :: rest => some (.op .eq, rest)
  | '!' :: '=' :: rest => some (.op .ne, rest)
  | '<' :: '=' :: rest => some (.op .le, rest)
  | '>' :: '=' :: rest => some (.op .ge, rest)
  | '+' :: '=' :: rest => some (.augment .add, rest)
  | '-' :: '=' :: rest => some (.augment .sub, rest)
  | '*' :: '=' :: rest => some (.augment .mul, rest)
  | '/' :: '=' :: rest => some (.augment .div, rest)
  | '%' :: '=' :: rest => some (.augment .mod, rest)
  | '&' :: '=' :: rest => some (.augment .bitAnd, rest)
  | '|' :: '=' :: rest => some (.augment .bitOr, rest)
  | '^' :: '=' :: rest => some (.augment .bitXor, rest)
  | '<' :: '<' :: rest => some (.op .shiftLeft, rest)
  | '>' :: '>' :: rest => some (.op .shiftRight, rest)
  | '/' :: '/' :: rest => some (.op .floorDiv, rest)
  | '*' :: '*' :: rest => some (.doubleStar, rest)
  | '<' :: rest => some (.op .lt, rest)
  | '>' :: rest => some (.op .gt, rest)
  | '=' :: rest => some (.assign, rest)
  | '+' :: rest => some (.op .add, rest)
  | '-' :: rest => some (.op .sub, rest)
  | '*' :: rest => some (.star, rest)
  | '/' :: rest => some (.op .div, rest)
  | '%' :: rest => some (.op .mod, rest)
  | '&' :: rest => some (.op .bitAnd, rest)
  | '|' :: rest => some (.op .bitOr, rest)
  | '^' :: rest => some (.op .bitXor, rest)
  | '~' :: rest => some (.tilde, rest)
  | ':' :: rest => some (.colon, rest)
  | ';' :: rest => some (.semicolon, rest)
  | ',' :: rest => some (.comma, rest)
  | '(' :: rest => some (.leftParen, rest)
  | ')' :: rest => some (.rightParen, rest)
  | '[' :: rest => some (.leftBracket, rest)
  | ']' :: rest => some (.rightBracket, rest)
  | '\x7b' :: rest => some (.leftBrace, rest)
  | '\x7d' :: rest => some (.rightBrace, rest)
  | _ => none

/-- Reads a token that starts with the first character, which is no blank. -/
def readToken? (chars : List Char) : Option (Tok × List Char) :=
  match chars with
  | 'r' :: 'b' :: c :: rest =>
      if isQuote c then Literal.readString? true true (c :: rest) else readWord? chars
  | 'r' :: c :: rest =>
      if isQuote c then Literal.readString? true false (c :: rest) else readWord? chars
  | 'b' :: c :: rest =>
      if isQuote c then Literal.readString? false true (c :: rest) else readWord? chars
  | c :: _ =>
      if isQuote c then Literal.readString? false false chars
      else if startsName c then readWord? chars
      else if Literal.isDecimal c || c == '.' then Literal.readNumber? chars
      else (readMark? chars).map fun (mark, rest) => (.mark mark, rest)
  | [] => none

/-- The number of open brackets after a token; nothing if it closes one that is not open. -/
def depthAfter? (depth : Nat) : Tok → Option Nat
  | .mark .leftParen | .mark .leftBracket | .mark .leftBrace => some (depth + 1)
  | .mark .rightParen | .mark .rightBracket | .mark .rightBrace =>
      if depth == 0 then none else some (depth - 1)
  | _ => some depth

/-! ## Lines -/

/-- The text with every end of line written as a newline. -/
def plainLines : List Char → List Char
  | [] => []
  | '\r' :: '\n' :: rest => '\n' :: plainLines rest
  | '\r' :: rest => '\n' :: plainLines rest
  | c :: rest => c :: plainLines rest

/-- Whether the text ends here. -/
def isEnd (chars : List Char) : Bool := chars.isEmpty || chars.head? == some '\x00'

/-- Whether the character is a blank. -/
def isBlank (c : Char) : Bool := c == ' ' || c == '\t'

/-- The width of the blanks at the start of a line, and what follows them.  `seen` characters
were looked at before, of width `width`. -/
def indentation (seen width : Nat) : List Char → Nat × List Char
  | ' ' :: rest => indentation (seen + 1) (width + 1) rest
  | '\t' :: rest => indentation (seen + 1) (width + (8 - seen % 8)) rest
  | rest => (width, rest)

/-- The text after a comment, if one starts it. -/
def skipComment : List Char → List Char
  | '#' :: rest => rest.dropWhile fun c => c != '\n' && c != '\x00'
  | rest => rest

/-- The tokens for a change of indentation, and the widths that are open after it, the
innermost first. -/
def reindent? (width : Nat) : List Nat → Option (List Tok × List Nat)
  | [] => none
  | current :: outer =>
      if current < width then some ([.indent], width :: current :: outer)
      else if width == current then some ([], current :: outer)
      else (reindent? width outer).bind fun (toks, open_) =>
        if toks matches [.indent] then none else some (.outdent :: toks, open_)

/-- The tokens at the end of the text: open indentation ends first. -/
def finalTokens (lineStart : Bool) (widths : List Nat) : List Tok :=
  let open_ := widths.length - 1
  (if open_ == 0 || lineStart then [] else [.newline]) ++ List.replicate open_ .outdent ++ [.ending]

/-- Goes on with the text.  `done` are the tokens before, the last one first, `depth` the number
of open brackets, `widths` the open widths of indentation, and `lineStart` says whether a line
starts here.  The fuel is more than twice the length of the text. -/
def tokensOnto (done : List Tok) (depth : Nat) (widths : List Nat) :
    Nat → Bool → List Char → Option (List Tok)
  | 0, _, _ => none
  | fuel + 1, true, chars =>
      let (width, rest) := indentation 0 0 chars
      if isEnd rest || rest.head? == some '#' || rest.head? == some '\n' then
        match skipComment rest with
        | '\n' :: rest => tokensOnto done depth widths fuel true rest
        | _ => some (done.reverse ++ finalTokens true widths)
      else if depth > 0 then tokensOnto done depth widths fuel false rest
      else
        match reindent? width widths with
        | some (toks, widths) => tokensOnto (toks.reverse ++ done) depth widths fuel false rest
        | none => none
  | fuel + 1, false, chars =>
      match skipComment (chars.dropWhile isBlank) with
      | [] | '\x00' :: _ => some (done.reverse ++ finalTokens false widths)
      | '\n' :: rest =>
          tokensOnto (if depth > 0 then done else .newline :: done) depth widths fuel true rest
      | '\\' :: '\n' :: rest => tokensOnto done depth widths fuel false rest
      | chars =>
          match readToken? chars with
          | none => none
          | some (tok, rest) =>
              match depthAfter? depth tok with
              | none => none
              | some depth => tokensOnto (tok :: done) depth widths fuel false rest

/-- The tokens of a program text, the last of which is its ending. -/
def tokens? (text : String) : Option (List Tok) :=
  let chars := plainLines text.toList
  tokensOnto [] 0 [0] (2 * chars.length + 2) true chars

end Shorthand.Expression
