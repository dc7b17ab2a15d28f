/-!
# Powers of two and ten

The scales that numerals and doubles are measured in.
-/

namespace ReflectCalc

/-- A power of two. -/
abbrev twoTo (n : Nat) : Nat := Nat.pow 2 n

/-- A power of ten. -/
abbrev tenTo (n : Nat) : Nat := Nat.pow 10 n

end ReflectCalc
