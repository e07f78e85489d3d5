import Shorthand.Text.Width

/-!
# Control sequences

An escape character starts a control sequence: an order to the display, such as a change of
colour, which takes no columns.  A left bracket says that the sequence sets a style, which an
`m` ends.  A right bracket says that it is a command, which a backslash ends; but the command
`8;`, which starts and ends a link, is ended by a bell or by an escape and a backslash.  Until
one of the brackets comes, the sequence goes on whatever follows.
-/

namespace Shorthand.Text

/-- Where a text stands with regard to control sequences. -/
inductive Control where
  /-- Outside of them. -/
  | plain
  /-- Behind an escape: `fresh` says whether it is the last character. -/
  | opened (fresh : Bool)
  /-- In a style. -/
  | style
  /-- Behind an escape and the right bracket that follows it. -/
  | bracket
  /-- Behind an escape, a right bracket and an `8`. -/
  | eight
  /-- In a command other than a link. -/
  | command
  /-- In a link: `escaped` says whether the last character is an escape. -/
  | link (escaped : Bool)
deriving DecidableEq, Inhabited

namespace Control

/-- The character that starts a control sequence. -/
def escape : Char := '\x1b'

/-- The character that rings a bell. -/
def bell : Char := '\x07'

/-- Goes on in a command that is no link. -/
def inCommand (c : Char) : Control := if c == '\\' then plain else command

/-- Where the text stands after a further character. -/
def next (c : Char) : Control → Control
  | plain => if c == escape then opened true else plain
  | opened fresh =>
      if c == '[' then style
      else if c == ']' then (if fresh then bracket else command)
      else opened false
  | style => if c == 'm' then plain else style
  | bracket => if c == '8' then eight else inCommand c
  | eight => if c == ';' then link false else inCommand c
  | command => inCommand c
  | link escaped =>
      if c == bell || (escaped && c == '\\') then plain else link (c == escape)

/-- The columns that a character takes where the text stands: none in a control sequence. -/
def columns (state : Control) (c : Char) : Nat :=
  if state == plain && state.next c == plain then charWidth c else 0

/-- The columns of the widest line.  The line so far has `width` columns, and the widest one
before it `widest`.  A newline in a control sequence ends no line. -/
def widestFrom (state : Control) (width widest : Nat) : List Char → Nat
  | [] => max width widest
  | c :: rest =>
      if state == plain && c == '\n' then widestFrom plain 0 (max width widest) rest
      else widestFrom (state.next c) (width + state.columns c) widest rest

end Control

/-- The columns that the widest line of a text takes. -/
def widestLine (text : String) : Nat := Control.widestFrom .plain 0 0 text.toList

end Shorthand.Text
