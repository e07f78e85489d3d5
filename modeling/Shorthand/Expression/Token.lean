/-!
# Tokens of expressions

Expressions are written in a small language of their own.  Its tokens are names, literals,
keywords and punctuation, and the ends and the indentation of lines, which mean something
outside brackets.
-/

namespace Shorthand.Expression

/-- The operators between two values. -/
inductive BinaryOp where
  | add
  | sub
  | mul
  | div
  | floorDiv
  | mod
  | bitAnd
  | bitOr
  | bitXor
  | shiftLeft
  | shiftRight
  | eq
  | ne
  | lt
  | gt
  | le
  | ge
  | isIn
  | notIn
deriving DecidableEq, Inhabited

/-- The operators before a value. -/
inductive UnaryOp where
  | plus
  | minus
  | invert
  | not
deriving DecidableEq, Inhabited

/-- The keywords. -/
inductive Keyword where
  | and
  | break
  | continue
  | define
  | elif
  | else
  | for
  | if
  | in
  | lambda
  | not
  | or
  | pass
  | return
deriving DecidableEq, Inhabited

/-- The punctuation. -/
inductive Mark where
  | leftParen
  | rightParen
  | leftBracket
  | rightBracket
  | leftBrace
  | rightBrace
  | comma
  | colon
  | semicolon
  | dot
  | tilde
  | star
  | doubleStar
  | assign
  /-- An assignment that first applies an operator. -/
  | augment (op : BinaryOp)
  /-- A sign that stands between two values; two of them may also stand before one. -/
  | op (op : BinaryOp)
deriving DecidableEq, Inhabited

/-- A token. -/
inductive Tok where
  /-- The end of a line. -/
  | newline
  /-- A line that is indented further than the one before it. -/
  | indent
  /-- The end of such lines. -/
  | outdent
  /-- The end of the text. -/
  | ending
  | name (text : String)
  | int (value : Nat)
  | float (value : Float)
  /-- A text, as its UTF-8 bytes. -/
  | string (bytes : List UInt8)
  | bytes (bytes : List UInt8)
  | keyword (word : Keyword)
  | mark (mark : Mark)
deriving Inhabited

/-- The keyword with a spelling. -/
def Keyword.ofText? : String → Option Keyword
  | "and" => some .and
  | "break" => some .break
  | "continue" => some .continue
  | "def" => some .define
  | "elif" => some .elif
  | "else" => some .else
  | "for" => some .for
  | "if" => some .if
  | "in" => some .in
  | "lambda" => some .lambda
  | "not" => some .not
  | "or" => some .or
  | "pass" => some .pass
  | "return" => some .return
  | _ => none

/-- Words that are no names and that no expression can use: reserved words, and the keywords of
statements that are never allowed. -/
def reservedWords : List String :=
  ["as", "async", "await", "class", "del", "except", "finally", "from", "global", "import",
   "is", "load", "nonlocal", "raise", "try", "while", "with", "yield"]

end Shorthand.Expression
