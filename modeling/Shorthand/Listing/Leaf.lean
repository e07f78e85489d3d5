import Shorthand.Machine.Line
import Shorthand.Text.Space

/-!
# Lines of a listing

A leaf is what becomes one line of the listing.  A variable becomes two: its label and the
directive that reserves its storage.  The code of a program part stands between the lines that
its role puts before and after it.
-/

namespace Shorthand

open Machine

/-- What becomes one line. -/
inductive Leaf where
  /-- An instruction or a directive. -/
  | instr (mnemonic : String) (operands : List String)
  /-- An instruction that may go on at a label. -/
  | branch (mnemonic : String) (operands : List String) (target : String)
  /-- A place that branches go to. -/
  | label (name : String)
  /-- A comment of the source. -/
  | comment (text : String)
  /-- A line as it stands. -/
  | text (text : String)
deriving DecidableEq, Inhabited

namespace Leaf

/-- A branch that is always taken. -/
def jump (target : String) : Leaf := .branch "br" [] target

/-- A branch that is taken if two registers compare in the way of the mnemonic. -/
def jumpIf (mnemonic a b target : String) : Leaf := .branch mnemonic [a, b] target

/-- The kind of the leaf, for diagnosis. -/
def kindName : Leaf → String
  | instr _ _ => "instr"
  | branch _ _ _ => "branch"
  | label _ => "label"
  | comment _ => "comment"
  | text _ => "text"

/-- The line of a comment: an empty one is only its mark. -/
def commentLine (text : String) : String :=
  let words := Text.trim text
  if words.isEmpty then margin ++ "#" else margin ++ "# " ++ words

/-- The line that the leaf becomes. -/
def line : Leaf → String
  | instr mnemonic operands => formatLine mnemonic operands
  | branch mnemonic operands target => formatLine mnemonic (operands ++ [target])
  | label name => name ++ ":"
  | comment words => commentLine words
  | text line => line

end Leaf

/-! ## Variables -/

/-- Where a variable is placed, by a number. -/
structure Align where
  number : Int
deriving DecidableEq, Inhabited

/-- Anywhere in the data. -/
def Align.byte : Align := ⟨0⟩

/-- At a multiple of the size of a word. -/
def Align.word : Align := ⟨1⟩

/-- Storage with a label. -/
structure Variable where
  name : String
  align : Align
  directive : String
  args : List String
deriving DecidableEq, Inhabited

/-- The two lines of a variable. -/
def Variable.leaves (v : Variable) : List Leaf := [.label v.name, .instr v.directive v.args]

/-! ## Roles -/

/-- The label of the entry point. -/
def startLabel : String := "_start"

/-- The label where the program stays at its end. -/
def endLabel : String := "_end"

/-- The first value of the stack pointer. -/
def stackTop : String := "LAST_RAM_WORD"

/-- What code is for. -/
inductive Role where
  | plain
  /-- The program proper, which sets up the stack and at its end branches to itself. -/
  | main
  /-- A subroutine. -/
  | function (name : String)
deriving DecidableEq, Inhabited

namespace Role

/-- The lines before the code. -/
def before : Role → List Leaf
  | plain => []
  | main => [.text "# Entry point", .label startLabel, .instr "movia" ["sp", stackTop]]
  | function name => [.label name]

/-- The lines after the code. -/
def after : Role → List Leaf
  | plain => []
  | main => [.label endLabel, .jump endLabel]
  | function _ => [.instr "ret" []]

/-- The kind of the code, for diagnosis. -/
def kindName : Role → String
  | plain => "block"
  | main => "main"
  | function _ => "function"

end Role

end Shorthand
