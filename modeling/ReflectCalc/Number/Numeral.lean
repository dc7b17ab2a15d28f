import ReflectCalc.Number.Power
import ReflectCalc.Text.Basic

/-!
# Numerals

Integers as text, in any base from 2 to 36.

* `Numeral.readNat?` reads a non-empty run of digits, `Numeral.readInt?` allows one sign before it;
* `Numeral.readInt32?` and `Numeral.readUnsigned?` refuse what does not fit a machine word;
* `Numeral.ofNat` and `Numeral.ofInt` write, without leading zeros.
-/

namespace ReflectCalc.Numeral

/-- The value of an ASCII digit or letter; letters of either case count from ten. -/
def digitValue? (c : Char) : Option Nat :=
  if '0' ≤ c ∧ c ≤ '9' then some (c.toNat - '0'.toNat)
  else if 'a' ≤ c ∧ c ≤ 'z' then some (c.toNat - 'a'.toNat + 10)
  else if 'A' ≤ c ∧ c ≤ 'Z' then some (c.toNat - 'A'.toNat + 10)
  else none

/-- The value of a digit that the base has. -/
def digit? (base : Nat) (c : Char) : Option Nat :=
  (digitValue? c).filter (· < base)

/-- Continues the numeral whose value so far is `n` with the digits of `t`. -/
def continueNat? (base : Nat) : (n : Nat) → Text → Option Nat
  | n, [] => some n
  | n, c :: t => do continueNat? base (n * base + (← digit? base c)) t

/-- The value of a non-empty run of digits. -/
def readNat? (base : Nat) : Text → Option Nat
  | [] => none
  | c :: t => continueNat? base 0 (c :: t)

/-- The value of a numeral with at most one sign. -/
def readInt? (base : Nat) : Text → Option Int
  | '-' :: t => (readNat? base t).map fun n => -(n : Int)
  | '+' :: t => (readNat? base t).map fun n => (n : Int)
  | t => (readNat? base t).map fun n => (n : Int)

/-- A numeral with at most one sign whose value fits 32 signed bits. -/
def readInt32? (base : Nat) (t : Text) : Option Int32 := do
  let n ← readInt? base t
  if -2147483648 ≤ n ∧ n ≤ 2147483647 then some (Int32.ofInt n) else none

/-- A decimal numeral, possibly after a plus sign, whose value fits the given number of bits. -/
def readUnsigned? (bits : Nat) (t : Text) : Option Nat := do
  let n ← match t with
    | '+' :: t => readNat? 10 t
    | t => readNat? 10 t
  if n < twoTo bits then some n else none

/-- The numeral of `n` in a base up to 16, with lower-case digits. -/
def inBase (base n : Nat) : Text := Nat.toDigits base n

/-- The decimal numeral of `n`. -/
def ofNat (n : Nat) : Text := inBase 10 n

/-- The decimal numeral of `n`, with a minus sign if it is negative. -/
def ofInt : Int → Text
  | .ofNat n => ofNat n
  | .negSucc n => '-' :: ofNat (n + 1)

end ReflectCalc.Numeral
