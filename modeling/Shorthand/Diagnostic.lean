import Shorthand.Text.Message

/-!
# Diagnostics

A compilation fails for one of a fixed number of reasons, its `Code`.  Every code has a kind,
a summary, and a template that its details fill in.  A few failures have no details; they are
shown by the summary alone.

A failure that was met on a line of the source is shown with that line.  One that only shows at
the end of the source, such as a missing block, is not.
-/

namespace Shorthand

open Text

/-- The kinds of failure. -/
inductive Kind where
  | structural
  | grammatical
  | semantic
deriving DecidableEq, Inhabited

namespace Kind

/-- The kinds by number. -/
def all : List Kind := [structural, grammatical, semantic]

/-- The name of the kind. -/
def name : Kind → String
  | structural => "structural"
  | grammatical => "syntax"
  | semantic => "semantic"

/-- The name of the kind with a number.  A number that belongs to none is shown. -/
def describe (n : Int) : String :=
  match if n < 0 then none else all[n.toNat]? with
  | some kind => kind.name
  | none => s!"Kind({n})"

end Kind

/-- The reasons for which a compilation fails. -/
inductive Code where
  | compileDuplicate
  | compileMissing
  | mainDuplicate
  | mainMissing
  | functionDuplicate
  | stackEmpty
  | stackMismatch
  | blockUnclosed
  | outsideBlock
  | constOutsideCompile
  | characterInvalid
  | operatorUnknown
  | literalInvalid
  | sizeInvalid
  | bracketUnterminated
  | stringUnterminated
  | expressionUnterminated
  | expressionInvalid
  | castUnknown
  | expected
  | trailing
  | registerExpected
  | immediateExpected
  | divideImmediate
  | highRegister
  | nameInvalid
  | variableDuplicate
deriving DecidableEq, Inhabited

/-- What is known of a code beforehand. -/
structure Code.Entry where
  /-- The name of the code. -/
  name : String
  /-- The kind of the failure. -/
  kind : Kind
  /-- The failure without its details. -/
  summary : String
  /-- The failure with places for its details. -/
  template : String

namespace Code

/-- The codes by number. -/
def all : List Code :=
  [compileDuplicate, compileMissing, mainDuplicate, mainMissing, functionDuplicate, stackEmpty,
   stackMismatch, blockUnclosed, outsideBlock, constOutsideCompile, characterInvalid,
   operatorUnknown, literalInvalid, sizeInvalid, bracketUnterminated, stringUnterminated,
   expressionUnterminated, expressionInvalid, castUnknown, expected, trailing,
   registerExpected, immediateExpected, divideImmediate, highRegister, nameInvalid,
   variableDuplicate]

/-- What is known of the code. -/
def entry : Code → Entry
  | compileDuplicate =>
      ⟨"CompileDuplicate", .structural, "compile duplicated", "multiple compile blocks"⟩
  | compileMissing =>
      ⟨"CompileMissing", .structural, "compile missing", "no compile block defined"⟩
  | mainDuplicate =>
      ⟨"MainDuplicate", .structural, "main duplicated", "multiple main blocks"⟩
  | mainMissing =>
      ⟨"MainMissing", .structural, "main missing", "no main block defined"⟩
  | functionDuplicate =>
      ⟨"FunctionDuplicate", .structural, "function duplicated", "function %v duplicated"⟩
  | stackEmpty =>
      ⟨"StackEmpty", .structural, "control stack empty", "'%v' without an open block"⟩
  | stackMismatch =>
      ⟨"StackMismatch", .structural, "control stack mismatch", "'%v' cannot close '%v' %v"⟩
  | blockUnclosed =>
      ⟨"BlockUnclosed", .structural, "block unclosed", "'%v' block %v is not closed"⟩
  | outsideBlock =>
      ⟨"OutsideBlock", .structural, "statement outside block",
       "'%v' outside of main or a function"⟩
  | constOutsideCompile =>
      ⟨"ConstOutsideCompile", .structural, "constant outside compile",
       "constant %v outside of the compile block"⟩
  | characterInvalid =>
      ⟨"CharacterInvalid", .grammatical, "character invalid", "unexpected character '%v'"⟩
  | operatorUnknown =>
      ⟨"OperatorUnknown", .grammatical, "operator unknown", "unknown operator '%v'"⟩
  | literalInvalid =>
      ⟨"LiteralInvalid", .grammatical, "literal invalid", "'%v' is not a valid literal"⟩
  | sizeInvalid =>
      ⟨"SizeInvalid", .grammatical, "size invalid", "'%v' is not a valid size"⟩
  | bracketUnterminated =>
      ⟨"BracketUnterminated", .grammatical, "bracket unterminated", "missing ']' after '%v'"⟩
  | stringUnterminated =>
      ⟨"StringUnterminated", .grammatical, "string unterminated", "unterminated string %v"⟩
  | expressionUnterminated =>
      ⟨"ExpressionUnterminated", .grammatical, "expression unterminated",
       "unterminated expression %v"⟩
  | expressionInvalid =>
      ⟨"ExpressionInvalid", .grammatical, "expression invalid",
       "$(%v) is not a valid expression"⟩
  | castUnknown =>
      ⟨"CastUnknown", .grammatical, "cast unknown", "unknown cast (%v)"⟩
  | expected =>
      ⟨"Expected", .grammatical, "token expected", "expected '%v' at '%v'"⟩
  | trailing =>
      ⟨"Trailing", .grammatical, "excessive arguments", "unexpected '%v' after statement"⟩
  | registerExpected =>
      ⟨"RegisterExpected", .semantic, "register expected", "'%v' is not a register"⟩
  | immediateExpected =>
      ⟨"ImmediateExpected", .semantic, "immediate expected", "'%v' is not an immediate value"⟩
  | divideImmediate =>
      ⟨"DivideImmediate", .semantic, "immediate division", "division by immediate %v"⟩
  | highRegister =>
      ⟨"HighRegister", .semantic, "high operator register",
       "'%v' requires an immediate operand"⟩
  | nameInvalid =>
      ⟨"NameInvalid", .semantic, "name invalid", "'%v' is not a valid name"⟩
  | variableDuplicate =>
      ⟨"VariableDuplicate", .semantic, "variable duplicated", "variable %v duplicated"⟩

/-- The name of the code. -/
def name (code : Code) : String := code.entry.name

/-- The kind of the failure. -/
def kind (code : Code) : Kind := code.entry.kind

/-- The failure without its details. -/
def summary (code : Code) : String := message code.entry.summary []

/-- The code with a name. -/
def ofName? (text : String) : Option Code := all.find? fun code => code.name == text

/-- The code with a number. -/
def ofNumber? (n : Int) : Option Code := if n < 0 then none else all[n.toNat]?

/-- What is known of the code with a number.  A number that belongs to none has no texts. -/
def entryOfNumber (n : Int) : Entry :=
  match ofNumber? n with
  | some code => code.entry
  | none => ⟨"", .structural, "", ""⟩

end Code

/-- What went wrong. -/
inductive Problem where
  /-- A code on its own, shown by its summary. -/
  | plain (code : Code)
  /-- A code with the details that fill its template. -/
  | detailed (code : Code) (args : List Arg)
  /-- A line of the source is longer than the reader takes. -/
  | lineTooLong
  /-- The source could not be read, for the reason given. -/
  | unreadable (reason : String)
deriving DecidableEq

namespace Problem

/-- A code whose details are texts. -/
def withTexts (code : Code) (texts : List String) : Problem :=
  .detailed code (texts.map Arg.text)

/-- The code, if the failure has one. -/
def code? : Problem → Option Code
  | plain code => some code
  | detailed code _ => some code
  | lineTooLong => none
  | unreadable _ => none

/-- The failure in words. -/
def text : Problem → String
  | plain code => code.summary
  | detailed code args => message code.entry.template args
  | lineTooLong => "bufio.Scanner: token too long"
  | unreadable reason => reason

end Problem

/-- A line of the source, by its number from one on and its text without the white space
around it. -/
structure Place where
  number : Int
  line : String
deriving DecidableEq, Inhabited

/-- The words for something that was met on a line. -/
def Place.locate (place : Place) (words : String) : String :=
  message "line %d '%v' %v" [.integer place.number, .text place.line, .text words]

/-- A problem with the place where it was met, if it was met on a line. -/
structure Failure where
  problem : Problem
  place? : Option Place
deriving DecidableEq

namespace Failure

/-- A problem that was met on a line. -/
def on (place : Place) (problem : Problem) : Failure := ⟨problem, some place⟩

/-- A problem of the source as a whole. -/
def whole (problem : Problem) : Failure := ⟨problem, none⟩

/-- The failure in words. -/
def text (failure : Failure) : String :=
  match failure.place? with
  | some place => place.locate failure.problem.text
  | none => failure.problem.text

end Failure

end Shorthand
