import Shorthand.Source
import Shorthand.Statement.Handler
import Shorthand.Token.Lexer

/-!
# From source text to statements

Every line is lexed and dispatched on its own.  The first line with a problem ends the parse;
the statements of the lines before it are kept.
-/

namespace Shorthand

/-- A statement with the line that it stands on. -/
structure Located where
  place : Place
  statement : Statement

/-- The statements of one line. -/
def parseLine (handlers : List Handler) (line : String) : Except Problem (List Statement) :=
  match (lex line).problem? with
  | some problem => .error problem
  | none => dispatch handlers (lex line).tokens

/-- The statements of a source, as far as it could be parsed. -/
structure Parsed where
  statements : List Located
  /-- What ended the parse before the source ended. -/
  failure? : Option Failure
  /-- How many lines were looked at. -/
  seen : Nat

/-- Goes on with the lines after `last`; `done` are the statements before, the last one
first, and `ending?` is what stops the reading of further lines. -/
def parseOnto (handlers : List Handler) (ending? : Option Problem) (done : List Located)
    (seen : Nat) (last : Place) : List String → Parsed
  | [] => ⟨done.reverse, ending?.map (Failure.on last), seen⟩
  | raw :: rest =>
      let place : Place := ⟨seen + 1, Text.trim raw⟩
      match parseLine handlers place.line with
      | .error problem => ⟨done.reverse, some (.on place problem), seen + 1⟩
      | .ok statements =>
          parseOnto handlers ending? ((statements.map (Located.mk place)).reverse ++ done)
            (seen + 1) place rest

/-- The place before the first line. -/
def Place.start : Place := ⟨0, ""⟩

/-- The statements of a source. -/
def parse (handlers : List Handler) (source : Source) : Parsed :=
  parseOnto handlers source.ending? [] 0 Place.start source.lines

end Shorthand
