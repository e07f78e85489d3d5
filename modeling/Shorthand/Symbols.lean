import Shorthand.Diagnostic
import Shorthand.Expression
import Shorthand.Listing.Leaf
import Shorthand.Sequence
import Shorthand.Symbols.Ordered

/-!
# Symbols

The constants and the variables of one compilation.  A constant stands for a text and can be
defined again: the last text counts, at the place of the first definition.  A variable stands
for storage and is declared once.  The two do not know of each other, so a name may be both.  The
constants are a map, with their names in order beside it, and so are the variables.
-/

namespace Shorthand

/-- The storage of a variable. -/
structure Storage where
  /-- In bytes. -/
  size : Int
  align : Align
  /-- The texts of the initial values. -/
  init : List String
deriving DecidableEq, Inhabited

/-- The symbols. -/
structure Symbols where
  /-- The texts of the constants. -/
  texts : Ordered String
  /-- The storage of the variables. -/
  storages : Ordered Storage
deriving DecidableEq, Inhabited

namespace Symbols

/-- No symbols. -/
def empty : Symbols := ⟨.empty, .empty⟩

/-- Defines a constant, again if it is defined already. -/
def setConstant (symbols : Symbols) (name value : String) : Symbols :=
  { symbols with texts := symbols.texts.set name value }

/-- The text of a constant. -/
def constant? (symbols : Symbols) (name : String) : Option String := symbols.texts.value? name

/-- The constants in the order of their first definitions. -/
def constants (symbols : Symbols) : List (String × String) := symbols.texts.entries

/-- The storage of a variable. -/
def storage? (symbols : Symbols) (name : String) : Option Storage := symbols.storages.value? name

/-- Declares a variable. -/
def declare (symbols : Symbols) (name : String) (storage : Storage) : Except Problem Symbols :=
  if (symbols.storage? name).isSome then
    .error (.withTexts .variableDuplicate [name])
  else .ok { symbols with storages := symbols.storages.set name storage }

/-- The variables in the order of their declarations. -/
def declared (symbols : Symbols) : List (String × Storage) := symbols.storages.entries

/-- The value of a constant whose text is an integer. -/
def integer? (symbols : Symbols) (name : String) : Option Int :=
  (symbols.constant? name).bind Text.Integer.signed?

/-- The value of an expression, in which the integer constants are known, and what it prints. -/
def evaluate [Interpreter] (symbols : Symbols) (text : String) : Expression.Evaluation :=
  Expression.evaluate symbols.integer? text

end Symbols

end Shorthand
