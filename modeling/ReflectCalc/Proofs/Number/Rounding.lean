import Mathlib.Algebra.Order.Floor.Semifield
import ReflectCalc.Proofs.Number.Value

/-!
# Rounding to doubles

Which double a rational number is rounded to. `Double.rounded` gives its magnitude: the number is
counted in units of the place of its last bit, the count is rounded to a natural, and place and
count together are the bits. The functions that run do the same on quotients of naturals, by
comparing lengths and dividing with rest.

* `Double.ofDecimal_eq` — a decimal becomes the double that its value is rounded to; this also takes
  in the two short cuts for numbers out of range;
* `Double.rounded_mono` — rounding keeps the order;
* `Double.rounded_absValue` — the value of a double is rounded to that double.

The last two determine the order of the values, `Double.absValue_le_iff`.
-/

namespace ReflectCalc

variable {x y : ℚ} {num den s : ℕ} {q : ℤ}

/-! ### To a natural -/

/-- The nearest natural, a tie to the even one. -/
def roundEven (x : ℚ) : ℕ :=
  if 2 * (x - ⌊x⌋₊) < 1 ∨ (2 * (x - ⌊x⌋₊) = 1 ∧ ⌊x⌋₊ % 2 = 0) then ⌊x⌋₊ else ⌊x⌋₊ + 1

theorem roundDiv_eq (h : den ≠ 0) : roundDiv num den = roundEven (num / den) := by
  have hden : (0 : ℚ) < den := by exact_mod_cast Nat.pos_of_ne_zero h
  -- what the floor leaves is the rest of the division
  have hrest : (num / den : ℚ) - (num / den : ℕ) = (num % den : ℕ) / den := by
    rw [sub_eq_iff_eq_add, div_add' _ _ _ hden.ne', div_left_inj' hden.ne']
    exact_mod_cast (Nat.mod_add_div' num den).symm
  have hlt : 2 * ((num % den : ℕ) / den : ℚ) < 1 ↔ 2 * (num % den) < den := by
    rw [← mul_div_assoc, div_lt_one hden]
    exact_mod_cast Iff.rfl
  have heq : 2 * ((num % den : ℕ) / den : ℚ) = 1 ↔ 2 * (num % den) = den := by
    rw [← mul_div_assoc, div_eq_one_iff_eq hden.ne']
    exact_mod_cast Iff.rfl
  simp only [roundDiv, roundEven, Nat.floor_div_eq_div, hrest, hlt, heq]

theorem roundEven_natCast (n : ℕ) : roundEven n = n := by
  simp [roundEven]

theorem roundEven_of_lt (h : 2 * x < 1) : roundEven x = 0 := by
  have hfloor : ⌊x⌋₊ = 0 := Nat.floor_eq_zero.2 (by linarith)
  rw [roundEven, hfloor, if_pos (.inl (by simpa using h))]

theorem floor_le_roundEven (x : ℚ) : ⌊x⌋₊ ≤ roundEven x := by
  unfold roundEven
  split
  · exact le_rfl
  · exact Nat.le_succ _

theorem roundEven_le_floor_add_one (x : ℚ) : roundEven x ≤ ⌊x⌋₊ + 1 := by
  unfold roundEven
  split
  · exact Nat.le_succ _
  · exact le_rfl

theorem roundEven_mono (h : x ≤ y) : roundEven x ≤ roundEven y := by
  rcases (Nat.floor_mono h).lt_or_eq with hlt | heq
  · calc roundEven x ≤ ⌊x⌋₊ + 1 := roundEven_le_floor_add_one x
      _ ≤ ⌊y⌋₊ := hlt
      _ ≤ roundEven y := floor_le_roundEven y
  · -- between the same two naturals, what is rounded down stands before what is rounded up
    unfold roundEven
    rw [heq]
    split
    · split
      · exact le_rfl
      · exact Nat.le_succ _
    · next hx =>
      rw [if_neg]
      rintro (hy | ⟨hy, heven⟩)
      · exact hx (.inl (by linarith))
      · rcases h.lt_or_eq with hxy | rfl
        · exact hx (.inl (by linarith))
        · exact hx (.inr ⟨hy, heven⟩)

namespace Double

variable {a b d : Double}

/-! ### The place of the last bit -/

/-- The place of the last bit that is kept of a positive number: 52 below the leading one, or the
least place of all. -/
def place (x : ℚ) : ℤ := max (-1074) (Int.log 2 x - 52)

theorem place_mono (hx : 0 < x) (h : x ≤ y) : place x ≤ place y := by
  have hlog : Int.log 2 x ≤ Int.log 2 y := Int.log_mono_right hx h
  unfold place
  omega

/-- In units of its last place a number has at most 53 bits. -/
theorem lt_place (x : ℚ) : x < (2 ^ 53 : ℕ) * 2 ^ place x := by
  have hlog : x < 2 ^ (Int.log 2 x + 1) := by
    exact_mod_cast Int.lt_zpow_succ_log_self (b := 2) (by decide) x
  refine hlog.trans_le ?_
  rw [← two_zpow_add, two_zpow_le]
  unfold place
  omega

/-- It has fewer only at the least place. -/
theorem place_le (hx : 0 < x) (h : -1074 < place x) : (2 ^ 52 : ℕ) * 2 ^ place x ≤ x := by
  have hlog : 2 ^ Int.log 2 x ≤ x := by
    exact_mod_cast Int.zpow_log_le_self (b := 2) (by decide) hx
  refine le_trans ?_ hlog
  rw [← two_zpow_add, two_zpow_le]
  unfold place at *
  omega

/-- These two properties determine the place. -/
theorem place_eq (hx : 0 < x) (hlow : -1074 ≤ q) (hlt : x < (2 ^ 53 : ℕ) * 2 ^ q)
    (hle : q = -1074 ∨ (2 ^ 52 : ℕ) * 2 ^ q ≤ x) : place x = q := by
  rw [← two_zpow_add] at hlt hle
  have hhigh : Int.log 2 x < q + 53 :=
    (Int.lt_zpow_iff_log_lt (by decide) hx).1 (by exact_mod_cast hlt)
  unfold place
  rcases hle with rfl | hle
  · omega
  · have hlead : q + 52 ≤ Int.log 2 x :=
      (Int.zpow_le_iff_le_log (by decide) hx).1 (by exact_mod_cast hle)
    omega

/-! ### The magnitude -/

/-- A number in units of its last place, rounded. -/
def significandOf (x : ℚ) : ℕ := roundEven (x / 2 ^ place x)

/-- The magnitude of the double that a number from zero up is rounded to. -/
def rounded (x : ℚ) : ℕ :=
  if x = 0 then 0
  else min infinityMagnitude ((place x + 1074).toNat * twoTo 52 + significandOf x)

theorem significandOf_le (x : ℚ) : significandOf x ≤ 2 ^ 53 := by
  have hle : x / 2 ^ place x ≤ (2 ^ 53 : ℕ) := by
    rw [div_le_iff₀ (by positivity)]
    exact (lt_place x).le
  rw [← roundEven_natCast (2 ^ 53)]
  exact roundEven_mono hle

theorem le_significandOf (hx : 0 < x) (h : -1074 < place x) : 2 ^ 52 ≤ significandOf x := by
  have hle : ((2 ^ 52 : ℕ) : ℚ) ≤ x / 2 ^ place x := by
    rw [le_div_iff₀ (by positivity)]
    exact place_le hx h
  rw [← roundEven_natCast (2 ^ 52)]
  exact roundEven_mono hle

theorem rounded_zero : rounded 0 = 0 := if_pos rfl

theorem rounded_le (x : ℚ) : rounded x ≤ infinityMagnitude := by
  unfold rounded
  split
  · exact Nat.zero_le _
  · exact min_le_left _ _

/-- **Rounding keeps the order.** -/
theorem rounded_mono (hx : 0 ≤ x) (h : x ≤ y) : rounded x ≤ rounded y := by
  rcases hx.eq_or_lt with rfl | hx
  · rw [rounded_zero]
    exact Nat.zero_le _
  have hy : 0 < y := hx.trans_le h
  rw [rounded, if_neg hx.ne', rounded, if_neg hy.ne']
  refine min_le_min_left _ ?_
  rcases (place_mono hx h).eq_or_lt with heq | hlt
  · have hcount : significandOf x ≤ significandOf y := by
      rw [significandOf, significandOf, heq]
      exact roundEven_mono (by gcongr)
    rw [heq]
    omega
  · -- the carry out of the lower place is at most the leading bit of the higher one
    have hlow : -1074 ≤ place x := le_max_left _ _
    have hcarry := significandOf_le x
    have hlead := le_significandOf hy (by omega)
    have hplaces : ((place x + 1074).toNat + 1) * twoTo 52 ≤ (place y + 1074).toNat * twoTo 52 :=
      Nat.mul_le_mul_right _ (by omega)
    have hbit : twoTo 52 = 2 ^ 52 := rfl
    rw [Nat.succ_mul] at hplaces
    omega

/-- What fits the bits is not rounded. -/
theorem rounded_scaled (hs : s ≠ 0) (hlow : -1074 ≤ q) (hlt : s < 2 ^ 53)
    (hle : q = -1074 ∨ 2 ^ 52 ≤ s) :
    rounded (s * 2 ^ q) = min infinityMagnitude ((q + 1074).toNat * twoTo 52 + s) := by
  have hcount : (0 : ℚ) < s := by exact_mod_cast Nat.pos_of_ne_zero hs
  have hpos : (0 : ℚ) < s * 2 ^ q := by positivity
  have hplace : place (s * 2 ^ q) = q := by
    refine place_eq hpos hlow ?_ (hle.imp_right fun hle => ?_)
    · gcongr
    · gcongr
  rw [rounded, if_neg hpos.ne', significandOf, hplace, mul_div_cancel_right₀ _ (by positivity),
    roundEven_natCast]

/-! ### Out of range -/

theorem rounded_of_le (h : 2 ^ (1024 : ℤ) ≤ x) : rounded x = infinityMagnitude := by
  refine le_antisymm (rounded_le x) ?_
  have hpow : ((twoTo 52 : ℕ) : ℚ) * 2 ^ (972 : ℤ) = 2 ^ (1024 : ℤ) := by
    have hbit : ((twoTo 52 : ℕ) : ℚ) = 2 ^ (52 : ℤ) := by norm_num
    rw [hbit, ← zpow_add₀ (by norm_num)]
    rfl
  have htop : rounded (2 ^ (1024 : ℤ)) = infinityMagnitude := by
    rw [← hpow, rounded_scaled (by decide) (by decide) (by decide) (.inr (by decide))]
    decide
  rw [← htop]
  exact rounded_mono (by positivity) h

theorem rounded_of_lt (hx : 0 ≤ x) (h : x < 2 ^ (-1080 : ℤ)) : rounded x = 0 := by
  rcases hx.eq_or_lt with rfl | hx
  · exact rounded_zero
  have hplace : place x = -1074 := by
    refine place_eq hx le_rfl (h.trans ?_) (.inl rfl)
    rw [← two_zpow_add, two_zpow_lt]
    decide
  -- it is less than half of the least unit
  have hcount : significandOf x = 0 := by
    refine roundEven_of_lt ?_
    rw [hplace, ← mul_div_assoc, div_lt_one (by positivity)]
    calc 2 * x < 2 * 2 ^ (-1080 : ℤ) := by gcongr
      _ = 2 ^ (1 + -1080 : ℤ) := (zpow_one_add₀ (by norm_num) _).symm
      _ ≤ 2 ^ (-1074 : ℤ) := two_zpow_le.2 (by decide)
  rw [rounded, if_neg hx.ne', hplace, hcount]
  decide

/-! ### The functions that run -/

theorem scaled_lt_iff (hden : den ≠ 0) (n : ℕ) :
    num * twoTo (-q).toNat < n * (den * twoTo q.toNat) ↔ (num / den : ℚ) < n * 2 ^ q := by
  have hscale : (0 : ℚ) < (den * twoTo q.toNat : ℕ) := by
    exact_mod_cast Nat.mul_pos (Nat.pos_of_ne_zero hden) (Nat.pow_pos (by decide))
  rw [← Nat.cast_lt (α := ℚ), Nat.cast_mul n, ← div_lt_iff₀ hscale, scaled_div num den 2 q,
    div_lt_iff₀ (by positivity)]
  rfl

theorem exponentFor_eq (hnum : num ≠ 0) (hden : den ≠ 0) :
    exponentFor num den = place (num / den) := by
  have hpos : (0 : ℚ) < den := by exact_mod_cast Nat.pos_of_ne_zero hden
  have hnum1 : (2 : ℚ) ^ (num.log2 : ℤ) ≤ num := by exact_mod_cast Nat.log2_self_le hnum
  have hnum2 : (num : ℚ) < 2 ^ (num.log2 + 1 : ℤ) := by exact_mod_cast Nat.lt_log2_self
  have hden1 : (2 : ℚ) ^ (den.log2 : ℤ) ≤ den := by exact_mod_cast Nat.log2_self_le hden
  have hden2 : (den : ℚ) < 2 ^ (den.log2 + 1 : ℤ) := by exact_mod_cast Nat.lt_log2_self
  -- the lengths leave two candidates for the leading bit of the quotient
  have hlow : (2 : ℚ) ^ ((num.log2 : ℤ) - den.log2 - 1) ≤ num / den := by
    rw [le_div_iff₀ hpos]
    calc (2 : ℚ) ^ ((num.log2 : ℤ) - den.log2 - 1) * den
        ≤ 2 ^ ((num.log2 : ℤ) - den.log2 - 1) * 2 ^ (den.log2 + 1 : ℤ) := by gcongr
      _ = 2 ^ (num.log2 : ℤ) := by
        rw [← zpow_add₀ (by norm_num)]
        congr 1
        omega
      _ ≤ num := hnum1
  have hhigh : (num / den : ℚ) < 2 ^ ((num.log2 : ℤ) - den.log2 + 1) := by
    rw [div_lt_iff₀ hpos]
    calc (num : ℚ) < 2 ^ (num.log2 + 1 : ℤ) := hnum2
      _ = 2 ^ ((num.log2 : ℤ) - den.log2 + 1) * 2 ^ (den.log2 : ℤ) := by
        rw [← zpow_add₀ (by norm_num)]
        congr 1
        omega
      _ ≤ 2 ^ ((num.log2 : ℤ) - den.log2 + 1) * den := by gcongr
  -- and the comparison decides between them
  have hlead : num * twoTo (-((num.log2 : ℤ) - den.log2 - 52)).toNat
      < twoTo 52 * (den * twoTo ((num.log2 : ℤ) - den.log2 - 52).toNat) ↔
      (num / den : ℚ) < 2 ^ ((num.log2 : ℤ) - den.log2) := by
    have hbit : ((twoTo 52 : ℕ) : ℚ) = 2 ^ (52 : ℤ) := by norm_num
    rw [scaled_lt_iff hden, hbit, ← zpow_add₀ (by norm_num), add_sub_cancel]
  unfold exponentFor place
  simp only [hlead]
  split
  · next h =>
    rw [log_eq (by decide) hlow (by simpa using h)]
    omega
  · next h => rw [log_eq (by decide) (not_lt.1 h) hhigh]

theorem magnitudeFor_eq (hnum : num ≠ 0) (hden : den ≠ 0) :
    magnitudeFor num den = rounded (num / den) := by
  have hx : (num / den : ℚ) ≠ 0 :=
    div_ne_zero (Nat.cast_ne_zero.2 hnum) (Nat.cast_ne_zero.2 hden)
  have hscale : den * twoTo (exponentFor num den).toNat ≠ 0 :=
    Nat.mul_ne_zero hden (Nat.ne_of_gt (Nat.pow_pos (by decide)))
  have hcount : roundDiv (num * twoTo (-exponentFor num den).toNat)
      (den * twoTo (exponentFor num den).toNat) = significandOf (num / den) := by
    rw [roundDiv_eq hscale, scaled_div, exponentFor_eq hnum hden]
    rfl
  rw [exponentFor_eq hnum hden] at hcount
  rw [rounded, if_neg hx, magnitudeFor, exponentFor_eq hnum hden, hcount]

theorem ofRatio_eq (negative : Bool) (hden : den ≠ 0) :
    ofRatio negative num den = ofMagnitude negative (rounded (num / den)) := by
  unfold ofRatio
  split
  · next h => rw [h, Nat.cast_zero, zero_div, rounded_zero]
  · next h => rw [magnitudeFor_eq h hden]

/-- **A decimal becomes the double that its value is rounded to.** -/
theorem ofDecimal_eq (negative : Bool) (a : Decimal) :
    ofDecimal negative a = ofMagnitude negative (rounded a.value) := by
  unfold ofDecimal
  split
  · next h => rw [Decimal.value, h, Nat.cast_zero, zero_mul, rounded_zero]
  next hdigits =>
  split
  · next h =>
    -- far beyond the greatest double, as a power of ten is at least the same power of eight
    have hone : (1 : ℚ) ≤ a.digits := by exact_mod_cast Nat.one_le_iff_ne_zero.2 hdigits
    have hbig : 2 ^ (1024 : ℤ) ≤ a.value := by
      calc (2 : ℚ) ^ (1024 : ℤ) ≤ 2 ^ (3 * a.exp) := two_zpow_le.2 (by omega)
        _ ≤ 10 ^ a.exp := eight_zpow_le (by omega)
        _ ≤ a.digits * 10 ^ a.exp := le_mul_of_one_le_left (by positivity) hone
    rw [rounded_of_le hbig]
  split
  · next h =>
    -- far below the least one, as for powers below one it is the other way round
    have hlength : (a.digits : ℚ) < 2 ^ (a.digits.log2 + 1 : ℤ) := by
      exact_mod_cast Nat.lt_log2_self
    have hpow : (10 : ℚ) ^ a.exp ≤ 2 ^ (3 * a.exp) := ten_zpow_le (by omega)
    have hsmall : a.value < 2 ^ (-1080 : ℤ) := by
      calc a.value < 2 ^ (a.digits.log2 + 1 : ℤ) * 10 ^ a.exp := by
            rw [Decimal.value]
            gcongr
        _ ≤ 2 ^ (a.digits.log2 + 1 : ℤ) * 2 ^ (3 * a.exp) := by gcongr
        _ = 2 ^ (a.digits.log2 + 1 + 3 * a.exp : ℤ) := (zpow_add₀ (by norm_num) _ _).symm
        _ < 2 ^ (-1080 : ℤ) := two_zpow_lt.2 h
    rw [rounded_of_lt a.value_nonneg hsmall]
  · have hden : tenTo (-a.exp).toNat ≠ 0 := Nat.ne_of_gt (Nat.pow_pos (by decide))
    have hvalue : ((a.digits * tenTo a.exp.toNat : ℕ) : ℚ) / (tenTo (-a.exp).toNat : ℕ) =
        a.value := by
      rw [Decimal.value, ← Nat.cast_ofNat (R := ℚ) (n := 10), zpow_eq_div, Nat.cast_mul,
        mul_div_assoc]
    rw [ofRatio_eq negative hden, hvalue]

/-! ### Doubles -/

theorem magnitude_le (h : d.isNaN = false) : d.magnitude ≤ infinityMagnitude :=
  Nat.not_lt.1 (of_decide_eq_false h)

theorem isNaN_ofMagnitude {negative : Bool} {m : ℕ} (h : m ≤ infinityMagnitude) :
    (ofMagnitude negative m).isNaN = false := by
  have hlt : m < twoTo 63 := h.trans_lt (by decide)
  rw [isNaN, magnitude_ofMagnitude hlt]
  exact decide_eq_false h.not_gt

/-- **The value of a double is rounded to that double.** The value of an infinity is the power of
two behind the greatest finite double. -/
theorem rounded_absValue (h : d.isNaN = false) : rounded d.absValue = d.magnitude := by
  have hle := magnitude_le h
  have hbit : twoTo 52 = 2 ^ 52 := rfl
  unfold absValue significand exponent
  split
  · next hsmall =>
    by_cases hzero : d.magnitude = 0
    · rw [hzero, Nat.cast_zero, zero_mul, rounded_zero]
    · rw [rounded_scaled hzero le_rfl (hsmall.trans (by decide)) (.inl rfl)]
      simp
      omega
  · next hlarge =>
    -- the leading bit is not among the bits, and counts in the exponent instead
    have hfraction : d.magnitude % twoTo 52 < twoTo 52 := Nat.mod_lt _ (by decide)
    have hexp : 1 ≤ d.magnitude / twoTo 52 :=
      (Nat.one_le_div_iff (by decide)).2 (not_lt.1 hlarge)
    have hplace : ((d.magnitude / twoTo 52 : ℕ) - 1075 + 1074 : ℤ).toNat + 1
        = d.magnitude / twoTo 52 := by
      omega
    rw [rounded_scaled (by omega) (by omega) (by omega) (.inr (by omega)), ← Nat.add_assoc,
      ← Nat.succ_mul, Nat.succ_eq_add_one, hplace, Nat.div_add_mod']
    exact Nat.min_eq_right hle

theorem absValue_nonneg (d : Double) : 0 ≤ d.absValue := by
  unfold absValue
  positivity

/-- Magnitudes are in the order of the absolute values. -/
theorem absValue_le_iff (ha : a.isNaN = false) (hb : b.isNaN = false) :
    a.absValue ≤ b.absValue ↔ a.magnitude ≤ b.magnitude := by
  have hmono {a b : Double} (ha : a.isNaN = false) (hb : b.isNaN = false)
      (h : a.absValue ≤ b.absValue) : a.magnitude ≤ b.magnitude := by
    rw [← rounded_absValue ha, ← rounded_absValue hb]
    exact rounded_mono a.absValue_nonneg h
  refine ⟨hmono ha hb, fun h => ?_⟩
  rcases le_total a.absValue b.absValue with hle | hle
  · exact hle
  · exact (absValue_congr (h.antisymm (hmono hb ha hle))).le

end Double

end ReflectCalc
