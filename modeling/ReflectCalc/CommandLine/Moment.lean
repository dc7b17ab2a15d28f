import Std.Time.DateTime.Timestamp
import ReflectCalc.Builtin.Catalog

/-!
# Readings of the machine

`Builtin.Readings.take` asks the machine for what the built-in methods need from outside: a random
number and the two clocks. Everything else about a call is a function.
-/

namespace ReflectCalc.Builtin.Readings

/-- One set of readings. The random number is a multiple of `2 ^ (-53)`, and `start` is what the
steady clock said, in nanoseconds, when the program started. -/
def take (start : Nat) : IO Readings := do
  let bits ← IO.rand 0 (twoTo 53 - 1)
  let since ← Std.Time.Timestamp.now
  let now ← IO.monoNanosNow
  return {
    random := Double.ofRatio false bits (twoTo 53)
    millis := Int64.ofInt since.toMillisecondsSinceUnixEpoch.val
    nanos := Int64.ofNat (now - start) }

end ReflectCalc.Builtin.Readings
