import Mathlib.Algebra.Order.Field.Power
import Mathlib.Data.Int.Log
import Mathlib.Data.Rat.Floor
import Mathlib.Tactic.FieldSimp
import Mathlib.Tactic.Linarith
import Mathlib.Tactic.NormNum
import Mathlib.Tactic.Positivity
import ReflectCalc.Proofs.Number.Grammar

/-!
# What numbers stand for

The rational numbers behind decimals and doubles. The definitions that run keep to naturals and move
the powers of two and ten to either side of a quotient; `zpow_eq_div` puts the two sides together
again.

* `Decimal.value` and `Double.absValue` are the numbers;
* `Decimal.value_normal` and `Double.value_exactDecimal` — the number does not change when zeros are
  moved into the exponent, nor when a double is written out in full;
* `Decimal.log_value` — the place of the leading digit is the logarithm of the number.
-/

namespace ReflectCalc

/-! ### Powers -/

/-- Of the two halves of a power, one is 1. -/
theorem zpow_eq_div (b : ℕ) (e : ℤ) :
    (b : ℚ) ^ e = (Nat.pow b e.toNat : ℕ) / (Nat.pow b (-e).toNat : ℕ) := by
  obtain ⟨n, rfl | rfl⟩ := e.eq_nat_or_neg
  · simp
  · simp

/-- A quotient whose halves have been scaled. -/
theorem scaled_div (num den b : ℕ) (e : ℤ) :
    ((num * Nat.pow b (-e).toNat : ℕ) : ℚ) / (den * Nat.pow b e.toNat : ℕ) = num / den / b ^ e := by
  rw [zpow_eq_div, div_div_div_eq]
  push_cast
  rfl

theorem two_zpow_lt {a b : ℤ} : (2 : ℚ) ^ a < 2 ^ b ↔ a < b :=
  zpow_lt_zpow_iff_right₀ (by norm_num)

theorem two_zpow_le {a b : ℤ} : (2 : ℚ) ^ a ≤ 2 ^ b ↔ a ≤ b :=
  zpow_le_zpow_iff_right₀ (by norm_num)

theorem two_zpow_add (e : ℤ) (n : ℕ) : (2 : ℚ) ^ (e + n) = (2 ^ n : ℕ) * 2 ^ e := by
  rw [add_comm, zpow_add₀ (by norm_num), zpow_natCast]
  norm_num

theorem eight_zpow_le {e : ℤ} (h : 0 ≤ e) : (2 : ℚ) ^ (3 * e) ≤ 10 ^ e := by
  rw [zpow_mul]
  exact zpow_le_zpow_left₀ h (by norm_num) (by norm_num)

theorem ten_zpow_le {e : ℤ} (h : e ≤ 0) : (10 : ℚ) ^ e ≤ 2 ^ (3 * e) := by
  have hneg := eight_zpow_le (Int.neg_nonneg.2 h)
  rw [Int.mul_neg, zpow_neg, zpow_neg] at hneg
  exact (inv_le_inv₀ (by positivity) (by positivity)).1 hneg

/-- The logarithm lies between two powers. -/
theorem log_eq {b : ℕ} {x : ℚ} {k : ℤ} (hb : 1 < b) (hle : (b : ℚ) ^ k ≤ x)
    (hlt : x < (b : ℚ) ^ (k + 1)) : Int.log b x = k := by
  have hbase : (0 : ℚ) < b := by exact_mod_cast Nat.zero_lt_of_lt hb
  have hx : 0 < x := (zpow_pos hbase k).trans_le hle
  have hlow := (Int.zpow_le_iff_le_log hb hx).1 hle
  have hhigh := (Int.lt_zpow_iff_log_lt hb hx).1 hlt
  omega

/-! ### Decimals -/

namespace Decimal

variable {a b : Decimal} {n : ℕ}

/-- The number that a decimal stands for. -/
def value (d : Decimal) : ℚ := d.digits * 10 ^ d.exp

theorem value_nonneg (d : Decimal) : 0 ≤ d.value := by
  unfold value
  positivity

theorem value_pos {d : Decimal} (h : d.digits ≠ 0) : 0 < d.value := by
  have hdigits : 0 < d.digits := Nat.pos_of_ne_zero h
  unfold value
  positivity

theorem SameValue.value_eq (h : SameValue a b) : a.value = b.value := by
  have hdigits : (a.digits : ℚ) * 10 ^ (a.exp - b.exp).toNat
      = b.digits * 10 ^ (b.exp - a.exp).toNat := by
    exact_mod_cast h
  -- what was scaled up on either side makes up for the difference of the exponents
  have hpow : (10 : ℚ) ^ a.exp * 10 ^ (b.exp - a.exp).toNat
      = 10 ^ b.exp * 10 ^ (a.exp - b.exp).toNat := by
    have hexp : a.exp + (b.exp - a.exp).toNat = b.exp + (a.exp - b.exp).toNat := by omega
    rw [← zpow_natCast, ← zpow_natCast, ← zpow_add₀ (by norm_num), ← zpow_add₀ (by norm_num), hexp]
  refine mul_right_cancel₀ (b := (10 : ℚ) ^ (b.exp - a.exp).toNat) (by positivity) ?_
  calc a.value * 10 ^ (b.exp - a.exp).toNat
      = a.digits * 10 ^ (a.exp - b.exp).toNat * 10 ^ b.exp := by
        rw [value, mul_assoc, hpow, mul_comm ((10 : ℚ) ^ b.exp), mul_assoc]
    _ = b.value * 10 ^ (b.exp - a.exp).toNat := by
        rw [hdigits, value, mul_right_comm]

theorem value_stripZeros (fuel : ℕ) (d : Decimal) : (stripZeros fuel d).value = d.value := by
  induction fuel generalizing d with
  | zero => rfl
  | succ fuel ih =>
    rw [stripZeros]
    split
    · next hd =>
      -- a zero less among the digits is a step more in the exponent
      have hten : d.digits / 10 * tenTo 1 = d.digits :=
        Nat.div_mul_cancel (Nat.dvd_of_mod_eq_zero hd.2)
      have hscaled := sameValue_scaled (d.digits / 10) (d.exp + 1) 1
      rw [hten, Nat.cast_one, add_sub_cancel_right] at hscaled
      exact (ih _).trans hscaled.value_eq.symm
    · rfl

theorem value_normal (d : Decimal) : d.normal.value = d.value := value_stripZeros _ d

/-! ### The leading digit -/

theorem ofNat_lt (n : ℕ) : n < 10 ^ (Numeral.ofNat n).length := by
  induction n using Nat.strongRecOn with
  | ind n ih =>
    rw [Numeral.ofNat_eq]
    split
    · next hn => simpa using hn
    · next hn =>
      have htenth := ih (n / 10) (by omega)
      rw [List.length_append, List.length_singleton, pow_succ]
      omega

theorem ofNat_le (h : n ≠ 0) : 10 ^ (Numeral.ofNat n).length ≤ 10 * n := by
  induction n using Nat.strongRecOn with
  | ind n ih =>
    rw [Numeral.ofNat_eq]
    split
    · next hn =>
      rw [List.length_singleton, pow_one]
      omega
    · next hn =>
      have htenth := ih (n / 10) (by omega) (by omega)
      rw [List.length_append, List.length_singleton, pow_succ]
      omega

/-- The place of the leading digit is the logarithm to the base ten. -/
theorem log_value {d : Decimal} (h : d.digits ≠ 0) :
    Int.log 10 d.value = d.exp + d.text.length - 1 := by
  have hle : (10 : ℚ) ^ (d.text.length : ℤ) ≤ 10 * d.digits := by exact_mod_cast ofNat_le h
  have hlt : (d.digits : ℚ) < 10 ^ (d.text.length : ℤ) := by exact_mod_cast ofNat_lt d.digits
  refine log_eq (by decide) ?_ ?_
  · have hexp : d.exp + d.text.length - 1 = d.exp + (d.text.length - 1) := by omega
    have hlead : (10 : ℚ) ^ ((d.text.length : ℤ) - 1) ≤ d.digits := by
      rw [zpow_sub_one₀ (by norm_num), mul_inv_le_iff₀ (by norm_num), mul_comm]
      exact hle
    rw [hexp, Nat.cast_ofNat, zpow_add₀ (by norm_num), mul_comm, value]
    gcongr
  · have hexp : d.exp + d.text.length - 1 + 1 = d.exp + d.text.length := by omega
    rw [hexp, Nat.cast_ofNat, zpow_add₀ (by norm_num), mul_comm, value]
    gcongr

end Decimal

/-! ### Doubles -/

namespace Double

variable {a b d : Double}

theorem magnitude_lt (d : Double) : d.magnitude < twoTo 63 := Nat.mod_lt _ (by decide)

/-- A double is its sign and its magnitude. -/
theorem ofMagnitude_magnitude (d : Double) : ofMagnitude d.isNegative d.magnitude = d := by
  have hbits : (if d.isNegative then twoTo 63 else 0) + d.magnitude = d.bits.toNat := by
    have hword : d.bits.toNat < 2 ^ 64 := d.bits.toNat_lt
    have htop : twoTo 63 = 2 ^ 63 := rfl
    unfold isNegative magnitude
    rw [htop]
    simp only [decide_eq_true_eq]
    split <;> omega
  rw [ofMagnitude, hbits, UInt64.ofNat_toNat]

theorem ext_magnitude (hsign : a.isNegative = b.isNegative) (h : a.magnitude = b.magnitude) :
    a = b := by
  rw [← ofMagnitude_magnitude a, ← ofMagnitude_magnitude b, hsign, h]

theorem isNaN_of_isFinite (h : d.isFinite = true) : d.isNaN = false := by
  have hlt : d.magnitude < infinityMagnitude := of_decide_eq_true h
  exact decide_eq_false (Nat.not_lt.2 hlt.le)

/-- The absolute value of a finite double. -/
def absValue (d : Double) : ℚ := d.significand * 2 ^ d.exponent

theorem absValue_congr (h : a.magnitude = b.magnitude) : a.absValue = b.absValue := by
  simp only [absValue, significand, exponent, h]

theorem value_exactDecimal (d : Double) : d.exactDecimal.value = d.absValue := by
  unfold exactDecimal absValue Decimal.value
  split
  · next h =>
    obtain ⟨n, hn⟩ := Int.eq_ofNat_of_zero_le h
    simp [hn]
  · next h =>
    -- `2 ^ (-n)` is `5 ^ n · 10 ^ (-n)`
    obtain ⟨n, hn⟩ := Int.exists_eq_neg_ofNat (Int.not_le.1 h).le
    have hten : (10 : ℚ) ^ n = 5 ^ n * 2 ^ n := by
      rw [← mul_pow]
      norm_num
    simp only [hn, neg_neg, Int.toNat_natCast, Nat.pow_eq, Nat.cast_mul, Nat.cast_pow,
      Nat.cast_ofNat, zpow_neg, zpow_natCast, hten]
    field_simp

end Double

end ReflectCalc
