import Shorthand.Symbols
import Shorthand.Text.Table

/-!
# The table of symbols

The constants, and after them the variables with their sizes and initial values.
-/

namespace Shorthand.Symbols

/-- The row of a constant. -/
def constantRow (entry : String × String) : List String := [entry.1, "const", "", entry.2]

/-- The word for where a variable is placed. -/
def alignWord (align : Align) : String := if align == .word then "word" else "byte"

/-- The row of a variable. -/
def variableRow (entry : String × Storage) : List String :=
  let storage := entry.2
  [entry.1, alignWord storage.align, toString storage.size, ", ".intercalate storage.init]

/-- The table of the symbols. -/
def table (symbols : Symbols) : Text.Table where
  title := "Symbols"
  headings := ["NAME", "KIND", "SIZE", "VALUE"]
  rows := symbols.constants.map constantRow ++ symbols.declared.map variableRow

end Shorthand.Symbols
