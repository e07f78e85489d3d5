/-!
# Character classes given by ranges of code points

A class of characters of the Unicode standard is written down as a list of closed
ranges of code points in increasing order.  Membership walks the list and stops at the
first range that starts beyond the character, so that the common characters, which are
all at the front, are decided quickly.

Which characters a class has depends on the version of the standard.  The program does not choose
one: it takes the tables of the library that it is built with, and only says which release of it is
the oldest that will do.  That one has the tables of Unicode 15.0.  The tables here are those of
Unicode 17.0, as the builds have them whose behaviour is followed; the later versions added letters
and digits to the earlier ones and took none away.
-/

namespace Shorthand.Text

/-- Closed ranges of code points, in increasing order. -/
abbrev Ranges := List (Nat × Nat)

namespace Ranges

/-- Whether some range holds the code point.  The ranges must be in increasing order. -/
def holds (point : Nat) : Ranges → Bool
  | [] => false
  | (low, high) :: rest =>
      if point < low then false else if point ≤ high then true else holds point rest

/-- Every range is closed from the left and starts beyond the one before it. -/
def ordered : Ranges → Bool
  | [] => true
  | [(low, high)] => low ≤ high
  | (low, high) :: (low', high') :: rest =>
      low ≤ high && high < low' && ordered ((low', high') :: rest)

end Ranges

end Shorthand.Text
