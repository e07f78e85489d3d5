/-!
# Tokens

A line of source is a sequence of tokens.  A token keeps its text as it was written, so that
literals reach the assembler unchanged, and the column where it starts, counted in characters
from one.
-/

namespace Shorthand

/-- The categories of tokens. -/
inductive TokenKind where
  /-- A name, a keyword or a register. -/
  | ident
  /-- A number, which may turn out to have no value. -/
  | number
  /-- A character between single quotes. -/
  | char
  /-- A string between double quotes. -/
  | string
  /-- An expression between `$(` and its closing parenthesis. -/
  | expr
  /-- The rest of the line after `//`. -/
  | comment
  /-- An operator or a punctuation mark. -/
  | op
deriving DecidableEq, Inhabited

/-- The number of the category. -/
def TokenKind.index : TokenKind → Nat
  | ident => 0
  | number => 1
  | char => 2
  | string => 3
  | expr => 4
  | comment => 5
  | op => 6

/-- A lexeme of a line. -/
structure Token where
  kind : TokenKind
  /-- The text as written; of a comment, the part after the slashes. -/
  text : String
  /-- The column of the first character, from one on. -/
  col : Nat
deriving DecidableEq, Inhabited

namespace Token

/-- Whether the token is the given operator or identifier. -/
def is (tok : Token) (text : String) : Bool :=
  (tok.kind == .op || tok.kind == .ident) && tok.text == text

/-- Whether the token is the given operator. -/
def isOp (tok : Token) (text : String) : Bool := tok.kind == .op && tok.text == text

/-- The token as it stands in the source. -/
def print (tok : Token) : String :=
  match tok.kind with
  | .comment => "//" ++ tok.text
  | _ => tok.text

end Token

/-- Tokens with single blanks between them, as diagnostics show them. -/
def joinTokens (tokens : List Token) : String := " ".intercalate (tokens.map Token.print)

/-- The operators and punctuation marks.  An operator stands before those that it starts
with, so that the first one that fits is the longest. -/
def operators : List String :=
  ["?&=", "?|=", "?^=", "<<=", ">>=",
   "==", "!=", "<=", ">=", "<<", ">>", "&&", "||", "++", "--",
   "+=", "-=", "*=", "/=", "&=", "|=", "^=", "?&", "?|", "?^",
   "=", "+", "-", "*", "/", "&", "|", "^", "<", ">",
   "(", ")", "[", "]", ",", ":", ";"]

end Shorthand
