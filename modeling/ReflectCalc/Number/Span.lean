import ReflectCalc.Number.Numeral

/-!
# Spans of time

A span is a number of nanoseconds. Its text counts the largest of the units second, millisecond,
microsecond and nanosecond that it reaches, with the rest as a decimal fraction without zeros at its
end: `1.5s`, `40ms`, `0ns`.
-/

namespace ReflectCalc

/-- A span of time. -/
structure Span where
  nanos : Nat
deriving DecidableEq, Repr

namespace Span

/-- A span of whole seconds. -/
def ofSecs (n : Nat) : Span := ⟨n * tenTo 9⟩

/-- A span of whole milliseconds. -/
def ofMillis (n : Nat) : Span := ⟨n * tenTo 6⟩

/-- `n` units of `10 ^ places` nanoseconds and a rest, as a decimal. -/
def decimal (places n : Nat) : Text :=
  let digits := Numeral.ofNat (n % tenTo places)
  let padded := List.replicate (places - digits.length) '0' ++ digits
  let fraction := Text.dropTrailing '0' padded
  Numeral.ofNat (n / tenTo places) ++ (if fraction = [] then [] else '.' :: fraction)

/-- The text of a span. -/
def text (s : Span) : Text :=
  if tenTo 9 ≤ s.nanos then decimal 9 s.nanos ++ "s"
  else if tenTo 6 ≤ s.nanos then decimal 6 s.nanos ++ "ms"
  else if tenTo 3 ≤ s.nanos then decimal 3 s.nanos ++ "µs"
  else Numeral.ofNat s.nanos ++ "ns"

end Span

end ReflectCalc
