/-!
# Sets of characters as ranges

A character property is a list of ranges of code points with both ends included.
-/

namespace ServiceBoot.Text

abbrev Ranges := List (Nat × Nat)

def Ranges.holds (ranges : Ranges) (c : Char) : Bool :=
  ranges.any fun range ↦ range.1 ≤ c.toNat && c.toNat ≤ range.2

end ServiceBoot.Text
