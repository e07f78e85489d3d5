/-!
# Casts

A cast says how a load or a store reaches memory: for a whole word or a single byte, and
through the data cache or past it, as devices need.
-/

namespace Shorthand.Machine

/-- The width and the path of a memory access. -/
structure Cast where
  /-- A single byte instead of a word. -/
  byte : Bool
  /-- Past the data cache. -/
  uncached : Bool
deriving DecidableEq, Inhabited

namespace Cast

/-- A word through the cache, which is also what no cast at all means. -/
def word : Cast := ⟨false, false⟩

/-- The casts by number: the width is the high bit and the path the low one. -/
def all : List Cast := [⟨false, false⟩, ⟨false, true⟩, ⟨true, false⟩, ⟨true, true⟩]

/-- The name of the cast. -/
def name : Cast → String
  | ⟨false, false⟩ => "word"
  | ⟨false, true⟩ => "io"
  | ⟨true, false⟩ => "byte"
  | ⟨true, true⟩ => "byteio"

/-- The cast that a name in parentheses stands for. -/
def ofName? : String → Option Cast
  | "word" => some ⟨false, false⟩
  | "int" => some ⟨false, false⟩
  | "io" => some ⟨false, true⟩
  | "wordio" => some ⟨false, true⟩
  | "byte" => some ⟨true, false⟩
  | "byteio" => some ⟨true, true⟩
  | _ => none

/-- What a mnemonic ends in. -/
def ending (cast : Cast) : String :=
  (if cast.byte then "b" else "w") ++ (if cast.uncached then "io" else "")

/-- The load instruction. -/
def load (cast : Cast) : String := "ld" ++ cast.ending

/-- The store instruction. -/
def store (cast : Cast) : String := "st" ++ cast.ending

/-- The number of the cast. -/
def number (cast : Cast) : Nat :=
  (if cast.byte then 2 else 0) + (if cast.uncached then 1 else 0)

/-- The cast that the two lowest bits of a number give. -/
def ofBits (n : Int) : Cast := ⟨2 ≤ n % 4, n % 2 == 1⟩

/-- The name of the cast with a number.  A number that belongs to none is shown. -/
def describe (n : Int) : String :=
  if 0 ≤ n && n < 4 then (ofBits n).name else s!"Cast({n})"

end Cast

end Shorthand.Machine
