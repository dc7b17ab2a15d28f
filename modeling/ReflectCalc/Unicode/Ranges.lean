/-!
# Sets of characters

A property of characters is a table of the ranges of code points that have it.
-/

namespace ReflectCalc.Unicode

/-- Closed ranges of code points. -/
abbrev Ranges := List (Nat × Nat)

/-- Whether a character is in one of the ranges. -/
def Ranges.has (ranges : Ranges) (c : Char) : Bool :=
  ranges.any fun r => r.1 ≤ c.toNat && c.toNat ≤ r.2

end ReflectCalc.Unicode
