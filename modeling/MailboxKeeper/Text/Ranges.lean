/-!
# Ranges of code points

A property of characters is kept as a list of ranges, each given by its first and last code point.
-/

namespace MailboxKeeper.Text

/-- Does a character lie in one of the ranges? -/
def inRanges (ranges : List (Nat × Nat)) (c : Char) : Bool :=
  ranges.any fun r => r.1 ≤ c.toNat && c.toNat ≤ r.2

end MailboxKeeper.Text
