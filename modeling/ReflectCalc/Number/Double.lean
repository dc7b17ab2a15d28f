import ReflectCalc.Number.Power

/-!
# Doubles

A double is the 64 bits of its binary64 form: a sign bit and a 63-bit magnitude. Magnitudes grow
with the absolute value, the infinite one is `infinityMagnitude`, and every greater one is a NaN.

* `Double.significand` and `Double.exponent` give a finite value as `significand · 2 ^ exponent`;
* `Double.ofRatio` is the double nearest to a quotient of naturals, ties to even;
* `Double.ofDecimal` is the same for a decimal `digits · 10 ^ exp`;
* `Double.compare` is the order of the bit patterns: by sign, then by magnitude.

Everything that text depends on is computed on naturals; `toFloat` and `ofFloat` are for the
arithmetic that the machine does.
-/

namespace ReflectCalc

/-- A binary64 number, by its bits. -/
structure Double where
  /-- The sign, the exponent and the fraction, from the highest bit down. -/
  bits : UInt64
deriving DecidableEq, Repr

/-- A decimal number without a sign: `digits · 10 ^ exp`. -/
structure Decimal where
  /-- The digits, as one natural number. -/
  digits : Nat
  /-- The power of ten. -/
  exp : Int
deriving DecidableEq, Repr

/-- The quotient rounded to the nearest natural, a tie to the even one. -/
def roundDiv (num den : Nat) : Nat :=
  let q := num / den
  let r := num % den
  if 2 * r < den ∨ (2 * r = den ∧ q % 2 = 0) then q else q + 1

namespace Double

/-- The magnitude of the infinities. -/
def infinityMagnitude : Nat := 0x7FF0000000000000

/-- The double with a sign and a magnitude. -/
def ofMagnitude (negative : Bool) (magnitude : Nat) : Double :=
  ⟨UInt64.ofNat ((if negative then twoTo 63 else 0) + magnitude)⟩

/-- Whether the sign bit is set. -/
def isNegative (d : Double) : Bool := twoTo 63 ≤ d.bits.toNat

/-- The bits below the sign. -/
def magnitude (d : Double) : Nat := d.bits.toNat % twoTo 63

/-- Whether the value is not a number. -/
def isNaN (d : Double) : Bool := infinityMagnitude < d.magnitude

/-- Whether the value is one of the two infinities. -/
def isInfinite (d : Double) : Bool := d.magnitude == infinityMagnitude

/-- Whether the value is a number other than an infinity. -/
def isFinite (d : Double) : Bool := d.magnitude < infinityMagnitude

/-- Whether the value is one of the two zeros. -/
def isZero (d : Double) : Bool := d.magnitude == 0

/-- The quiet NaN without a sign. -/
def nan : Double := ⟨0x7FF8000000000000⟩

/-- Positive infinity. -/
def infinity : Double := ⟨0x7FF0000000000000⟩

/-- The same magnitude with the other sign, also for a NaN. -/
def neg (d : Double) : Double := ofMagnitude (!d.isNegative) d.magnitude

/-- The same magnitude without a sign. -/
def abs (d : Double) : Double := ofMagnitude false d.magnitude

/-- The significand of a finite value. -/
def significand (d : Double) : Nat :=
  if d.magnitude < twoTo 52 then d.magnitude else twoTo 52 + d.magnitude % twoTo 52

/-- The power of two that goes with the significand of a finite value. -/
def exponent (d : Double) : Int :=
  if d.magnitude < twoTo 52 then -1074 else (d.magnitude / twoTo 52 : Nat) - 1075

/-- The absolute value of a finite double as a quotient of naturals. -/
def ratio (d : Double) : Nat × Nat :=
  (d.significand * twoTo d.exponent.toNat, twoTo (-d.exponent).toNat)

/-! ### Rounding -/

/-- The power of two at which `num / den` is rounded: its leading bit gets the place 52, unless the
value is so small that the least place of all comes first. -/
def exponentFor (num den : Nat) : Int :=
  let q : Int := (num.log2 : Int) - den.log2 - 52
  max (-1074) (if num * twoTo (-q).toNat < twoTo 52 * (den * twoTo q.toNat) then q - 1 else q)

/-- The magnitude nearest to `num / den`. A significand that is rounded up to `2 ^ 53` carries into
the exponent, and what is too large becomes infinite. -/
def magnitudeFor (num den : Nat) : Nat :=
  let q := exponentFor num den
  let s := roundDiv (num * twoTo (-q).toNat) (den * twoTo q.toNat)
  min infinityMagnitude ((q + 1074).toNat * twoTo 52 + s)

/-- The double nearest to `num / den`. -/
def ofRatio (negative : Bool) (num den : Nat) : Double :=
  ofMagnitude negative (if num = 0 then 0 else magnitudeFor num den)

/-- The double nearest to a decimal. The first two cases only spare the large powers of ten: a
decimal from `10 ^ 400` up is infinite, and one below `2 ^ (-1080)` is zero. -/
def ofDecimal (negative : Bool) (d : Decimal) : Double :=
  if d.digits = 0 then ofMagnitude negative 0
  else if 400 ≤ d.exp then ofMagnitude negative infinityMagnitude
  else if (d.digits.log2 : Int) + 1 + 3 * d.exp < -1080 then ofMagnitude negative 0
  else ofRatio negative (d.digits * tenTo d.exp.toNat) (tenTo (-d.exp).toNat)

/-- The double nearest to an integer. -/
def ofInt (n : Int) : Double := ofRatio (n < 0) n.natAbs 1

/-! ### Order -/

/-- A number that orders all bit patterns: the negative ones by falling magnitude, then the others
by rising magnitude. -/
def orderKey (d : Double) : Int :=
  if d.isNegative then -(d.magnitude : Int) - 1 else d.magnitude

/-- The order of bit patterns: `-0.0` is below `0.0`, and a NaN stands beyond the infinity of its
sign. -/
protected def compare (a b : Double) : Ordering := Ord.compare a.orderKey b.orderKey

/-! ### The machine's arithmetic -/

/-- The machine's number with these bits. -/
def toFloat (d : Double) : Float := Float.ofBits d.bits

/-- The bits of the machine's number. -/
def ofFloat (f : Float) : Double := ⟨f.toBits⟩

end Double

end ReflectCalc
