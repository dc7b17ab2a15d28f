import Mathlib.Tactic.Ring
import ReflectCalc.Proofs.Number.Rounding

/-!
# Rounding to the nearest double

`Double.rounded` gives the double that is nearest to a number. The number is at most half a unit of
its last place away from what it is rounded to (`Double.abs_sub_le_half`), and the other doubles are
at least a whole unit away from that:

* `Double.add_le_absValue` — upwards, where the places get no lower;
* `Double.absValue_le_sub` — downwards, unless what it is rounded to is the least double with its
  place.

No number below that least double has its place, so nothing is rounded up to it and the exception
does no harm. `Double.abs_sub_absValue_le` puts the two sides together, and
`Double.abs_sub_ofDecimal_le` says it of the decimals that are read.
-/

namespace ReflectCalc

variable {x : ℚ} {s : ℕ} {q : ℤ}

/-- A natural that a number is rounded to is at most a half away. -/
theorem abs_sub_roundEven_le (hx : 0 ≤ x) : |x - roundEven x| ≤ 1 / 2 := by
  have hlow : (⌊x⌋₊ : ℚ) ≤ x := Nat.floor_le hx
  have hhigh : x < ⌊x⌋₊ + 1 := Nat.lt_floor_add_one x
  rw [abs_le]
  unfold roundEven
  split
  · next h =>
    rcases h with h | ⟨h, -⟩
    · constructor <;> linarith
    · constructor <;> linarith
  · next h =>
    have hhalf : 1 ≤ 2 * (x - ⌊x⌋₊) := not_lt.1 fun hlt => h (.inl hlt)
    push_cast
    constructor <;> linarith

namespace Double

variable {d e : Double}

theorem exists_magnitude_eq {m : ℕ} (h : m ≤ infinityMagnitude) :
    ∃ f : Double, f.magnitude = m ∧ f.isNaN = false :=
  ⟨ofMagnitude false m, magnitude_ofMagnitude (h.trans_lt (by decide)), isNaN_ofMagnitude h⟩

/-- The value of place and count. -/
theorem absValue_eq (hlow : -1074 ≤ q) (hle : q = -1074 ∨ 2 ^ 52 ≤ s) (hs : s ≤ 2 ^ 53)
    (hm : d.magnitude = (q + 1074).toNat * 2 ^ 52 + s) : d.absValue = s * 2 ^ q := by
  have hbit : twoTo 52 = 2 ^ 52 := rfl
  unfold absValue significand exponent
  rw [hbit]
  by_cases hsmall : s < 2 ^ 52
  · obtain rfl : q = -1074 := hle.resolve_right (not_le.2 hsmall)
    have hmagnitude : d.magnitude = s := by simpa using hm
    rw [hmagnitude, if_pos hsmall, if_pos hsmall]
  rw [if_neg (by omega), if_neg (by omega)]
  rcases hs.lt_or_eq with hlt | rfl
  · have hdiv : d.magnitude / 2 ^ 52 = (q + 1074).toNat + 1 := by omega
    have hmod : d.magnitude % 2 ^ 52 = s - 2 ^ 52 := by omega
    have hexp : (((q + 1074).toNat + 1 : ℕ) : ℤ) - 1075 = q := by omega
    have hlead : 2 ^ 52 + (s - 2 ^ 52) = s := by omega
    rw [hdiv, hmod, hexp, hlead]
  · -- the carry
    have hdiv : d.magnitude / 2 ^ 52 = (q + 1074).toNat + 2 := by omega
    have hmod : d.magnitude % 2 ^ 52 = 0 := by omega
    have hexp : (((q + 1074).toNat + 2 : ℕ) : ℤ) - 1075 = q + (1 : ℕ) := by omega
    rw [hdiv, hmod, hexp, two_zpow_add]
    push_cast
    ring

/-- The next double is at least a unit of the last place further up. -/
theorem add_le_absValue (hlow : -1074 ≤ q) (hle : q = -1074 ∨ 2 ^ 52 ≤ s) (hs : s ≤ 2 ^ 53)
    (he : e.isNaN = false) (h : (q + 1074).toNat * 2 ^ 52 + s < e.magnitude) :
    s * 2 ^ q + 2 ^ q ≤ e.absValue := by
  have hnext : (q + 1074).toNat * 2 ^ 52 + s + 1 ≤ infinityMagnitude := by
    have hinfinity := magnitude_le he
    omega
  obtain ⟨f, hf, hnan⟩ := exists_magnitude_eq hnext
  have hfe : f.absValue ≤ e.absValue := (absValue_le_iff hnan he).2 (by omega)
  refine le_trans ?_ hfe
  rcases hs.lt_or_eq with hlt | rfl
  · have hm : f.magnitude = (q + 1074).toNat * 2 ^ 52 + (s + 1) := by rw [hf, Nat.add_assoc]
    have hvalue := absValue_eq hlow (hle.imp_right Nat.le_succ_of_le) (Nat.succ_le_of_lt hlt) hm
    rw [hvalue, Nat.cast_succ, add_one_mul]
  · -- the next one is the second of those with a higher place
    have hplace : (q + (1 : ℕ) + 1074).toNat = (q + 1074).toNat + 1 := by omega
    have hm : f.magnitude = (q + (1 : ℕ) + 1074).toNat * 2 ^ 52 + (2 ^ 52 + 1) := by
      rw [hf, hplace]
      ring
    have hvalue := absValue_eq (by omega) (.inr (Nat.le_succ _)) (by norm_num) hm
    have hpos : (0 : ℚ) < 2 ^ q := by positivity
    rw [hvalue, two_zpow_add]
    push_cast
    linarith

/-- The double before is a unit of the last place further down, unless it has a lower place. -/
theorem absValue_le_sub (hlow : -1074 ≤ q) (hle : q = -1074 ∨ 2 ^ 52 < s) (hs : s ≤ 2 ^ 53)
    (he : e.isNaN = false) (hd : d.isNaN = false)
    (hm : d.magnitude = (q + 1074).toNat * 2 ^ 52 + s)
    (h : e.magnitude < d.magnitude) :
    e.absValue ≤ s * 2 ^ q - 2 ^ q := by
  have hpos : s ≠ 0 := by
    rintro rfl
    rcases hle with rfl | hle <;> omega
  have hbefore : d.magnitude - 1 ≤ infinityMagnitude := (Nat.sub_le _ _).trans (magnitude_le hd)
  obtain ⟨f, hf, hnan⟩ := exists_magnitude_eq hbefore
  have hef : e.absValue ≤ f.absValue := (absValue_le_iff he hnan).2 (by omega)
  have hvalue : f.absValue = (s - 1 : ℕ) * 2 ^ q :=
    absValue_eq hlow (hle.imp_right (by omega)) (by omega) (by omega)
  rw [hvalue, Nat.cast_pred (Nat.pos_of_ne_zero hpos), sub_one_mul] at hef
  exact hef

/-! ### The double that a number is rounded to -/

theorem leading_bit (hx : 0 < x) : place x = -1074 ∨ 2 ^ 52 ≤ significandOf x := by
  rcases (le_max_left (-1074) (Int.log 2 x - 52)).eq_or_lt with heq | hlt
  · exact .inl heq.symm
  · exact .inr (le_significandOf hx hlt)

theorem magnitude_of_rounded (hx : 0 < x) (hd : d.isFinite = true) (h : rounded x = d.magnitude) :
    d.magnitude = (place x + 1074).toNat * 2 ^ 52 + significandOf x := by
  have hfinite : d.magnitude < infinityMagnitude := of_decide_eq_true hd
  have hbit : twoTo 52 = 2 ^ 52 := rfl
  rw [rounded, if_neg hx.ne', hbit] at h
  omega

theorem absValue_of_rounded (hx : 0 < x) (hd : d.isFinite = true) (h : rounded x = d.magnitude) :
    d.absValue = significandOf x * 2 ^ place x :=
  absValue_eq (le_max_left _ _) (leading_bit hx) (significandOf_le x) (magnitude_of_rounded hx hd h)

/-- Rounding moves a number by half a unit of its last place at most. -/
theorem abs_sub_le_half (hx : 0 < x) (hd : d.isFinite = true) (h : rounded x = d.magnitude) :
    |x - d.absValue| ≤ 2 ^ place x / 2 := by
  have hunit : (0 : ℚ) < 2 ^ place x := by positivity
  have hscaled : x - d.absValue = (x / 2 ^ place x - significandOf x) * 2 ^ place x := by
    rw [absValue_of_rounded hx hd h, sub_mul, div_mul_cancel₀ _ hunit.ne']
  have hround : |x / 2 ^ place x - significandOf x| ≤ 1 / 2 :=
    abs_sub_roundEven_le (by positivity)
  calc |x - d.absValue| = |x / 2 ^ place x - significandOf x| * 2 ^ place x := by
        rw [hscaled, abs_mul, abs_of_pos hunit]
    _ ≤ 1 / 2 * 2 ^ place x := mul_le_mul_of_nonneg_right hround hunit.le
    _ = 2 ^ place x / 2 := by ring

/-- **No double is nearer to a number than the one that it is rounded to.** -/
theorem abs_sub_absValue_le (hx : 0 ≤ x) (hd : d.isFinite = true) (he : e.isNaN = false)
    (h : rounded x = d.magnitude) : |x - d.absValue| ≤ |x - e.absValue| := by
  have hnan := isNaN_of_isFinite hd
  rcases hx.eq_or_lt with rfl | hx
  · rw [rounded_zero] at h
    rw [zero_sub, zero_sub, abs_neg, abs_neg, abs_of_nonneg d.absValue_nonneg,
      abs_of_nonneg e.absValue_nonneg, absValue_le_iff hnan he]
    omega
  have hlow : -1074 ≤ place x := le_max_left _ _
  have hm := magnitude_of_rounded hx hd h
  have hvalue := absValue_of_rounded hx hd h
  have hhalf := abs_sub_le_half hx hd h
  have hbounds := abs_le.1 hhalf
  rcases lt_trichotomy d.magnitude e.magnitude with hlt | heq | hgt
  · -- a greater double is a unit further up, and a number above `d` at most half of one
    have hnext := add_le_absValue hlow (leading_bit hx) (significandOf_le x) he (hm ▸ hlt)
    rw [← hvalue] at hnext
    rcases le_total x d.absValue with hxd | hxd
    · rw [abs_sub_comm, abs_of_nonneg (by linarith), abs_sub_comm, abs_of_nonneg (by linarith)]
      linarith
    · refine hhalf.trans ?_
      rw [abs_sub_comm]
      exact le_trans (by linarith) (le_abs_self _)
  · rw [absValue_congr heq]
  · rcases le_or_gt d.absValue x with hdx | hdx
    · have hed : e.absValue ≤ d.absValue := (absValue_le_iff he hnan).2 hgt.le
      rw [abs_of_nonneg (by linarith), abs_of_nonneg (by linarith)]
      linarith
    · -- the number has its leading bit at this place too, so `d` is not the least with the place
      have hlead : place x = -1074 ∨ 2 ^ 52 < significandOf x := by
        rcases hlow.eq_or_lt with heq | hlt
        · exact .inl heq.symm
        · have hx := (place_le hx hlt).trans_lt (hvalue ▸ hdx)
          exact .inr (by exact_mod_cast lt_of_mul_lt_mul_right hx (by positivity))
      have hbefore := absValue_le_sub hlow hlead (significandOf_le x) he hnan hm hgt
      rw [← hvalue] at hbefore
      exact hhalf.trans (le_trans (by linarith) (le_abs_self _))

/-- **A decimal is read as the nearest double.** -/
theorem abs_sub_ofDecimal_le (negative : Bool) (a : Decimal)
    (h : (ofDecimal negative a).isFinite = true) (he : e.isNaN = false) :
    |a.value - (ofDecimal negative a).absValue| ≤ |a.value - e.absValue| := by
  refine abs_sub_absValue_le a.value_nonneg h he ?_
  rw [ofDecimal_eq, magnitude_ofMagnitude ((rounded_le _).trans_lt (by decide))]

end Double

end ReflectCalc
