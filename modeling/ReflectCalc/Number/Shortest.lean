import ReflectCalc.Number.Double

/-!
# Shortest decimals

`Double.shortest` is the decimal with the fewest digits that reads back as a given double, and of
several the one nearest to its value. For 1, 2, … 17 digits it looks at the two neighbours of the
value on the grid of decimals of that length and reads each of them back; the first grid with a hit
wins. Should no grid have one, the exact decimal value is the answer, so the result always reads
back.
-/

namespace ReflectCalc

/-- Which of two equally near decimals is taken. -/
inductive Tie where
  /-- The one whose last digit is even. -/
  | toEven
  /-- The greater one. -/
  | upward
deriving DecidableEq, Repr

namespace Decimal

/-- Moves `fuel` trailing zeros at most from the digits to the power of ten. -/
def stripZeros : (fuel : Nat) → Decimal → Decimal
  | 0, d => d
  | fuel + 1, d =>
    if d.digits ≠ 0 ∧ d.digits % 10 = 0 then stripZeros fuel ⟨d.digits / 10, d.exp + 1⟩ else d

/-- The same value with no zero at the end of the digits. -/
def normal (d : Decimal) : Decimal := stripZeros (d.digits.log2 + 1) d

/-- The digits as text. -/
def text (d : Decimal) : List Char := Nat.toDigits 10 d.digits

end Decimal

namespace Double

/-- Whether a decimal rounds to the absolute value of `d`. -/
def readsBack (d : Double) (decimal : Decimal) : Bool := ofDecimal false decimal == d.abs

/-- The least power of ten above `num / den`, by its exponent. -/
def decimalPoint (num den : Nat) : Int :=
  let k : Int := (Nat.toDigits 10 num).length - (Nat.toDigits 10 den).length
  if num * tenTo (-k).toNat < den * tenTo k.toNat then k else k + 1

/-- The neighbours of a finite non-zero value on the grid of multiples of `10 ^ exp`, the nearer one
first. -/
def neighbours (tie : Tie) (d : Double) (exp : Int) : List Decimal :=
  let num := d.ratio.1 * tenTo (-exp).toNat
  let den := d.ratio.2 * tenTo exp.toNat
  let below := num / den
  let lower := compare (2 * (num % den)) den
  if lower = .lt ∨ (lower = .eq ∧ tie = .toEven ∧ below % 2 = 0) then
    [⟨below, exp⟩, ⟨below + 1, exp⟩]
  else [⟨below + 1, exp⟩, ⟨below, exp⟩]

/-- The exact value of a finite double as a decimal. -/
def exactDecimal (d : Double) : Decimal :=
  if 0 ≤ d.exponent then ⟨d.significand * twoTo d.exponent.toNat, 0⟩
  else ⟨d.significand * Nat.pow 5 (-d.exponent).toNat, d.exponent⟩

/-- The shortest decimal that reads back as the absolute value of a finite non-zero double. -/
def shortest (tie : Tie) (d : Double) : Decimal :=
  let point := decimalPoint d.ratio.1 d.ratio.2
  let candidates := (List.range 17).flatMap fun (n : Nat) => neighbours tie d (point - (n + 1))
  ((candidates.find? (readsBack d)).getD d.exactDecimal).normal

end Double

end ReflectCalc
