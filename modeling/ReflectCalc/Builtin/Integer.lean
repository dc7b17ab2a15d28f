import ReflectCalc.Catalog.Fault

/-!
# Operations on 32-bit integers

The operations of the built-in types on integers. Sums, differences and absolute values wrap around
at 32 bits; the `exact` operations raise a fault instead, and division rounds down.

The machine's own operations crash where they have no result: `quotient` and `remainder` on a
divisor of zero, `predecessor` on the least integer, `readInBase` on a base that has no digits.
-/

namespace ReflectCalc.Builtin

/-- The 32-bit integer with this value, or a fault if there is none. -/
def exactly (n : Int) : Except Failure Int32 :=
  if -2147483648 ≤ n ∧ n ≤ 2147483647 then .ok (Int32.ofInt n)
  else .error (.fault .integerOverflow)

/-- The exact sum. -/
def addExact (x y : Int32) : Except Failure Int32 := exactly (x.toInt + y.toInt)

/-- The exact difference. -/
def subtractExact (x y : Int32) : Except Failure Int32 := exactly (x.toInt - y.toInt)

/-- The exact product. -/
def multiplyExact (x y : Int32) : Except Failure Int32 := exactly (x.toInt * y.toInt)

/-- The exact negation. -/
def negateExact (x : Int32) : Except Failure Int32 := exactly (-x.toInt)

/-- The quotient rounded towards zero. Only the least integer divided by `-1` wraps around. -/
def quotient (x y : Int32) : Except Failure Int32 := if y = 0 then .error .crash else .ok (x / y)

/-- What the quotient rounded towards zero leaves. -/
def remainder (x y : Int32) : Except Failure Int32 := if y = 0 then .error .crash else .ok (x % y)

/-- The integer before. -/
def predecessor (x : Int32) : Except Failure Int32 :=
  if x = Int32.minValue then .error .crash else .ok (x - 1)

/-- The quotient rounded down. It is one below the quotient rounded towards zero if something is
left and the signs differ, which shows in the sign of the exclusive or. -/
def floorDiv (x y : Int32) : Except Failure Int32 :=
  if y = 0 then .error (.fault .divisionByZero)
  else do
    let q ← quotient x y
    let rest ← remainder x y
    if rest ≠ 0 ∧ x ^^^ y < 0 then predecessor q else return q

/-- What the quotient rounded down leaves. -/
def floorMod (x y : Int32) : Except Failure Int32 := do
  let q ← floorDiv x y
  return x - q * y

/-- The absolute value; the least integer stays as it is. -/
def absolute (x : Int32) : Int32 := if x < 0 then -x else x

/-- The greater of two integers. -/
def greater (x y : Int32) : Int32 := if x < y then y else x

/-- The lesser of two integers. -/
def lesser (x y : Int32) : Int32 := if y < x then y else x

/-- The order of two values as `-1`, `0` or `1`. -/
def orderingSign : Ordering → Int32
  | .lt => -1
  | .eq => 0
  | .gt => 1

/-- The sign of an integer. -/
def sign (x : Int32) : Int32 := orderingSign (compare x.toInt 0)

/-- The integer's value modulo `2 ^ 32`. -/
def unsigned (x : Int32) : Nat := x.toBitVec.toNat

/-- How many of the 32 bits are set. -/
def bitCount (x : Int32) : Int32 :=
  Int32.ofNat ((List.range 32).countP fun i => x.toBitVec.getLsbD i)

/-- The 32 bits in the opposite order. -/
def reverseBits (x : Int32) : Int32 := Int32.ofBitVec x.toBitVec.reverse

/-- Reads a numeral with digits and ASCII letters in a base from 2 to 36. -/
def readInBase (base : Nat) (t : Text) : Except Failure (Option Int32) :=
  if 2 ≤ base ∧ base ≤ 36 then .ok (Numeral.readInt32? base t) else .error .crash

/-- Reads a numeral in the given base. -/
def parseInt (t : Text) (radix : Int32) : Except Failure Int32 :=
  if 2 ≤ radix.toInt ∧ radix.toInt ≤ 36 then do
    match ← readInBase (unsigned radix) t with
    | some n => return n
    | none => throw (.fault (.badNumeral t))
  else .error (.fault (.radixOutOfRange radix.toInt))

end ReflectCalc.Builtin
