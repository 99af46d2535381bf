/-!
# Ranges of characters

Properties of characters that come from a standard are kept as ranges of code
points, in ascending order and without overlap.
-/

namespace Sourcewright.Text

/-- Ranges of code points, both ends included. -/
abbrev Ranges := List (Nat × Nat)

def Ranges.contains (ranges : Ranges) (char : Char) : Bool :=
  ranges.any fun range => range.1 ≤ char.toNat && char.toNat ≤ range.2

end Sourcewright.Text
