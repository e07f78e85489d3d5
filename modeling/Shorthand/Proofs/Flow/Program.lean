import Mathlib.Tactic.Common
import Shorthand.Lowering.State
import Shorthand.Statement

/-!
# Well-structured programs

Statements come as a plain list.  Which lists make sense is told here by a grammar, given as the
type of its derivations:

* a `Flow` is what can stand in a body: simple statements, declarations of variables and
  comments, and the two constructs, whose parts are flows again;
* a `Part` is a block: the constants, or a body with its flow.  Its end may be written or not;
* a `Program` is a sequence of parts, with declarations of variables and comments around them.

Every derivation has its list of statements, and a list is well-structured if it is the list of
some derivation.  Statements that a place of the grammar does not allow cannot be put there: the
types `SimpleStatement` and `VariableDeclaration` carry the proof that they are of the right
kind.
-/

namespace Shorthand

/-- Whether the statement becomes a single instruction. -/
def Statement.isSimple : Statement → Bool
  | call _ | move _ _ | address _ _ | load _ _ _ _ | loadName _ _ _ | loadImmediate _ _
  | operate _ _ _ _ | store _ _ _ => true
  | block _ _ | branch _ | otherwise | loop _ | close | comment _ | declare _ => false

/-- Whether the declaration is one of a variable. -/
def Declaration.isVariable : Declaration → Bool
  | scalar _ _ _ | array _ _ _ | string _ _ | buffer _ _ => true
  | const _ _ => false

/-- The name that is declared. -/
def Declaration.name : Declaration → String
  | scalar _ name _ | array _ name _ | string name _ | buffer name _ | const name _ => name

/-- A statement that becomes a single instruction. -/
abbrev SimpleStatement := { statement : Statement // statement.isSimple = true }

/-- A declaration of a variable. -/
abbrev VariableDeclaration := { declaration : Declaration // declaration.isVariable = true }

/-! ## Flows -/

/-- What stands in a body. -/
inductive Flow where
  | done
  | simple (statement : SimpleStatement) (rest : Flow)
  | declare (declaration : VariableDeclaration) (rest : Flow)
  | comment (text : String) (rest : Flow)
  /-- A conditional without an alternative. -/
  | branch (cond : Condition) (body rest : Flow)
  /-- A conditional with an alternative. -/
  | choice (cond : Condition) (body alternative rest : Flow)
  /-- A loop, an endless one without a condition. -/
  | loop (cond? : Option Condition) (body rest : Flow)

/-- The statements of a flow. -/
def Flow.statements : Flow → List Statement
  | done => []
  | simple statement rest => statement.val :: rest.statements
  | declare declaration rest => .declare declaration.val :: rest.statements
  | comment text rest => .comment text :: rest.statements
  | branch cond body rest => .branch cond :: (body.statements ++ .close :: rest.statements)
  | choice cond body alternative rest =>
      .branch cond :: (body.statements ++
        .otherwise :: (alternative.statements ++ .close :: rest.statements))
  | loop cond? body rest => .loop cond? :: (body.statements ++ .close :: rest.statements)

/-! ## Programs -/

/-- What may stand anywhere: a declaration of a variable, or a comment. -/
inductive Note where
  | declare (declaration : VariableDeclaration)
  | comment (text : String)

/-- The statement of a note. -/
def Note.statement : Note → Statement
  | declare declaration => .declare declaration.val
  | comment text => .comment text

/-- What stands in the block of constants. -/
inductive Entry where
  | const (name value : String)
  | note (note : Note)

/-- The statement of an entry. -/
def Entry.statement : Entry → Statement
  | const name value => .declare (.const name value)
  | note n => n.statement

/-- The head of the block that a body is. -/
def Lowering.BodyKind.head : BodyKind → BlockHead
  | main => .main
  | function name => .function name

/-- The end of a block, if it is written. -/
def closing (written : Bool) : List Statement := if written then [.close] else []

/-- A block. -/
inductive Part where
  | compile (colon : Bool) (entries : List Entry) (ended : Bool)
  | body (kind : Lowering.BodyKind) (colon : Bool) (flow : Flow) (ended : Bool)

/-- The statements of a block. -/
def Part.statements : Part → List Statement
  | compile colon entries ended =>
      .block .compile colon :: (entries.map Entry.statement ++ closing ended)
  | body kind colon flow ended =>
      .block kind.head colon :: (flow.statements ++ closing ended)

/-- A program. -/
structure Program where
  /-- What stands before the first block. -/
  opening : List Note
  /-- The blocks, each with what stands after it. -/
  parts : List (Part × List Note)

/-- The statements of a program. -/
def Program.statements (program : Program) : List Statement :=
  program.opening.map Note.statement ++
    program.parts.flatMap fun (part, notes) => part.statements ++ notes.map Note.statement

end Shorthand
