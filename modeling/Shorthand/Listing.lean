import Shorthand.Listing.Block
import Shorthand.Symbols

/-!
# Listings

A compiled program, and the lines of assembly that it becomes: the constants, the program
proper, the functions, and the variables, those in words apart from the others.  A section
without content is left out.
-/

namespace Shorthand

/-- A compiled program. -/
structure Listing where
  symbols : Symbols
  /-- The globals and the constants. -/
  setup : List Node
  /-- The program proper. -/
  main : List Node
  /-- The functions, in the order of their definition. -/
  functions : List (String × List Node)
  /-- The variables in words, in the order of their declaration. -/
  words : List Variable
  /-- The other variables, in the order of their declaration. -/
  bytes : List Variable

namespace Listing

/-- The address of the first variable in words. -/
def wordOrigin : String := "0x00001000"

/-- Lines that stand in every section of a kind, and those of its elements; nothing if there are
no elements. -/
def headed {ε : Type} (heading : List String) (elements : List ε)
    (lines : ε → Sequence String) : List (Sequence String) :=
  if elements.isEmpty then [] else [.of heading, .each elements lines]

/-- The lines of a function, after an empty one. -/
def functionLines (function : String × List Node) : Sequence String :=
  .concat [.of [""], (Role.function function.1).lines function.2]

/-- The lines of the listing. -/
def lines (listing : Listing) : Sequence String :=
  .concat
    ([.of ["# Generated by shasm", "", "# Setup"],
      Role.plain.lines listing.setup,
      .of [""],
      Role.main.lines listing.main] ++
     headed ["", "# Functions"] listing.functions functionLines ++
     headed ["", "# Word-Aligned Variables", "", Machine.formatLine ".org" [wordOrigin]]
       listing.words Variable.lines ++
     headed ["", "# Random Variables"] listing.bytes Variable.lines ++
     [.of ["", "# End of Assembly Source", Machine.formatLine ".end" []]])

/-- The text of the listing: every line with its end. -/
def text (listing : Listing) : String :=
  (listing.lines String (fun text line => (text ++ line ++ "\n", true)) "").1

end Listing

end Shorthand
