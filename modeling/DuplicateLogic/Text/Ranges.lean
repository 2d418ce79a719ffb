/-! # Character ranges

A property of characters is a list of code point ranges in increasing order. -/

namespace DuplicateLogic.Text

/-- Inclusive code point ranges. -/
abbrev Ranges := List (Nat × Nat)

/-- Whether a character lies in one of the ranges. -/
def Ranges.contains (ranges : Ranges) (c : Char) : Bool :=
  ranges.any fun range => range.1 ≤ c.toNat && c.toNat ≤ range.2

end DuplicateLogic.Text
