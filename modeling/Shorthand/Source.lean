import Shorthand.Diagnostic
import Shorthand.Text.Utf8

/-!
# Source text

Source text is read line by line.  A line ends at a newline, and a carriage return before the
newline does not belong to it.  The last line need not end.  Lines have a limit: a longer one
stops the reading, and only the lines before it are seen.
-/

namespace Shorthand

/-- Source text as far as it can be read. -/
structure Source where
  /-- The lines as they stand. -/
  lines : List String
  /-- Why nothing after the lines can be read, if that is so. -/
  ending? : Option Problem

namespace Source

/-- The number of bytes that a line must not reach, its end not counted. -/
def lineLimit : Nat := 65536

/-- Splits bytes at newlines; `current` are the bytes of the line so far, the last one first. -/
def splitOnto (current : List UInt8) : List UInt8 → List (List UInt8)
  | [] => if current.isEmpty then [] else [current.reverse]
  | byte :: rest =>
      if byte == 10 then current.reverse :: splitOnto [] rest else splitOnto (byte :: current) rest

/-- The lines of the bytes, without their newlines. -/
def split (bytes : List UInt8) : List (List UInt8) := splitOnto [] bytes

/-- The line without a carriage return at its end. -/
def dropReturn (line : List UInt8) : List UInt8 :=
  if line.getLast? == some 13 then line.dropLast else line

/-- Whether the line is within the limit. -/
def fits (line : List UInt8) : Bool := line.length < lineLimit

/-- The source that bytes hold. -/
def ofBytes (bytes : List UInt8) : Source :=
  let lines := split bytes
  { lines := (lines.takeWhile fits).map fun line => Text.Utf8.decode (dropReturn line)
    ending? := if lines.all fits then none else some .lineTooLong }

/-- The source that a text holds. -/
def ofText (text : String) : Source := ofBytes text.toUTF8.toList

/-- A source that cannot be read at all. -/
def unreadable (reason : String) : Source := ⟨[], some (.unreadable reason)⟩

end Source

end Shorthand
