import ReflectCalc.Number.Shortest
import ReflectCalc.Proofs.Number.Rounding

/-!
# Shortest decimals and their doubles

Where the shortest decimal of a double lies. It is rounded to the double that it was made of
(`Double.rounded_shortest`), and as rounding keeps the order this fences it in:

* `Double.log_value_shortest` — its leading digit is less than 400 places from the point;
* `Double.le_value_shortest_iff` — it is on the same side of a power of ten as the double, provided
  that some double has this power for its shortest decimal.

The proviso holds for the two powers between which a double is written without an exponent. So the
choice may be made by the shortest decimal or by the double itself.
-/

namespace ReflectCalc.Double

variable {a b d t : Double} {tie : Tie} {k : ℤ}

theorem readsBack_iff {decimal : Decimal} :
    readsBack d decimal = true ↔ rounded decimal.value = d.magnitude := by
  have hlt : rounded decimal.value < twoTo 63 := (rounded_le _).trans_lt (by decide)
  rw [readsBack, beq_iff_eq, ofDecimal_eq, abs]
  refine ⟨fun h => ?_, fun h => by rw [h]⟩
  rw [← magnitude_ofMagnitude (b := false) hlt, h, magnitude_ofMagnitude d.magnitude_lt]

/-- **The shortest decimal is rounded to the double it was made of.** -/
theorem rounded_shortest (tie : Tie) (h : d.isFinite = true) :
    rounded (d.shortest tie).value = d.magnitude := by
  unfold shortest
  rw [Decimal.value_normal]
  generalize List.flatMap _ _ = candidates
  cases hfind : candidates.find? (readsBack d) with
  | some decimal => exact readsBack_iff.1 (List.find?_some hfind)
  | none =>
    rw [Option.getD_none, value_exactDecimal]
    exact rounded_absValue (isNaN_of_isFinite h)

/-- The sign does not matter. -/
theorem shortest_congr (h : a.magnitude = b.magnitude) : a.shortest tie = b.shortest tie := by
  have hreads : readsBack a = readsBack b := by
    funext decimal
    rw [readsBack, readsBack, abs, abs, h]
  have hsignificand : a.significand = b.significand := by simp only [significand, h]
  have hexponent : a.exponent = b.exponent := by simp only [exponent, h]
  have hratio : a.ratio = b.ratio := by simp only [ratio, hsignificand, hexponent]
  have hneighbours : neighbours tie a = neighbours tie b := by
    funext e
    simp only [neighbours, hratio]
  have hexact : a.exactDecimal = b.exactDecimal := by
    simp only [exactDecimal, hsignificand, hexponent]
  simp only [shortest, hratio, hreads, hneighbours, hexact]

/-! ### Range -/

theorem value_shortest_lt (h : d.isFinite = true) : (d.shortest tie).value < 2 ^ (1024 : ℤ) := by
  by_contra hle
  have hround := rounded_shortest tie h
  rw [rounded_of_le (not_lt.1 hle)] at hround
  exact (of_decide_eq_true h : d.magnitude < infinityMagnitude).ne hround.symm

theorem le_value_shortest (h : d.isFinite = true) (hzero : d.isZero = false) :
    2 ^ (-1080 : ℤ) ≤ (d.shortest tie).value := by
  by_contra hlt
  have hround := rounded_shortest tie h
  rw [rounded_of_lt (Decimal.value_nonneg _) (not_le.1 hlt)] at hround
  simp [isZero, ← hround] at hzero

theorem log_value_shortest (h : d.isFinite = true) (hzero : d.isZero = false) :
    -400 < Int.log 10 (d.shortest tie).value ∧ Int.log 10 (d.shortest tie).value < 400 := by
  have hpos : 0 < (d.shortest tie).value :=
    (zpow_pos (by norm_num) _).trans_le (le_value_shortest h hzero)
  have hlow : (10 : ℚ) ^ Int.log 10 (d.shortest tie).value ≤ (d.shortest tie).value := by
    exact_mod_cast Int.zpow_log_le_self (b := 10) (by decide) hpos
  have hhigh : (d.shortest tie).value < 10 ^ (Int.log 10 (d.shortest tie).value + 1) := by
    exact_mod_cast Int.lt_zpow_succ_log_self (b := 10) (by decide) (d.shortest tie).value
  generalize Int.log 10 (d.shortest tie).value = e at hlow hhigh
  constructor
  · by_contra he
    have hbound : (2 : ℚ) ^ (-1080 : ℤ) < 2 ^ (3 * (e + 1)) :=
      calc (2 : ℚ) ^ (-1080 : ℤ) ≤ (d.shortest tie).value := le_value_shortest h hzero
        _ < 10 ^ (e + 1) := hhigh
        _ ≤ 2 ^ (3 * (e + 1)) := ten_zpow_le (by omega)
    rw [two_zpow_lt] at hbound
    omega
  · by_contra he
    have hbound : (2 : ℚ) ^ (3 * e) < 2 ^ (1024 : ℤ) :=
      calc (2 : ℚ) ^ (3 * e) ≤ 10 ^ e := eight_zpow_le (by omega)
        _ ≤ (d.shortest tie).value := hlow
        _ < 2 ^ (1024 : ℤ) := value_shortest_lt h
    rw [two_zpow_lt] at hbound
    omega

/-! ### Powers of ten -/

/-- Nothing comes between a power of ten and the double of which it is the shortest decimal. -/
theorem le_value_shortest_iff (ht : t.isFinite = true) (hd : d.isFinite = true)
    (hshort : t.shortest tie = ⟨1, k⟩) (hle : 10 ^ k ≤ t.absValue) :
    10 ^ k ≤ (d.shortest tie).value ↔ 10 ^ k ≤ d.absValue := by
  have hpow : (t.shortest tie).value = 10 ^ k := by
    rw [hshort, Decimal.value, Nat.cast_one, one_mul]
  have hround : rounded (10 ^ k) = t.magnitude := by rw [← hpow, rounded_shortest tie ht]
  constructor
  · intro h
    have hmagnitude : t.magnitude ≤ d.magnitude := by
      rw [← hround, ← rounded_shortest tie hd]
      exact rounded_mono (by positivity) h
    exact hle.trans
      ((absValue_le_iff (isNaN_of_isFinite ht) (isNaN_of_isFinite hd)).2 hmagnitude)
  · intro h
    have hmagnitude : t.magnitude ≤ d.magnitude := by
      rw [← hround, ← rounded_absValue (isNaN_of_isFinite hd)]
      exact rounded_mono (by positivity) h
    rcases hmagnitude.eq_or_lt with heq | hlt
    · rw [← shortest_congr heq, hpow]
    · -- a decimal below the power would have been rounded to a lesser double
      by_contra hbelow
      have hround' := rounded_mono (Decimal.value_nonneg _) (not_le.1 hbelow).le
      rw [rounded_shortest tie hd, hround] at hround'
      omega

theorem thousandth_le_value_shortest_iff (h : d.isFinite = true) :
    10 ^ (-3 : ℤ) ≤ (d.shortest .upward).value ↔ 10 ^ (-3 : ℤ) ≤ d.absValue := by
  refine le_value_shortest_iff (t := ⟨0x3F50624DD2F1A9FC⟩) (by decide) h (by decide +kernel) ?_
  have hsignificand : significand ⟨0x3F50624DD2F1A9FC⟩ = 4611686018427388 := by decide
  have hexponent : exponent ⟨0x3F50624DD2F1A9FC⟩ = -62 := by decide
  rw [absValue, hsignificand, hexponent]
  norm_num

theorem tenMillion_le_value_shortest_iff (h : d.isFinite = true) :
    10 ^ (7 : ℤ) ≤ (d.shortest .upward).value ↔ 10 ^ (7 : ℤ) ≤ d.absValue := by
  refine le_value_shortest_iff (t := ⟨0x416312D000000000⟩) (by decide) h (by decide +kernel) ?_
  have hsignificand : significand ⟨0x416312D000000000⟩ = 5368709120000000 := by decide
  have hexponent : exponent ⟨0x416312D000000000⟩ = -29 := by decide
  rw [absValue, hsignificand, hexponent]
  norm_num

end ReflectCalc.Double
