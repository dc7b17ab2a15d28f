import Mathlib.Order.WithBot
import ReflectCalc.Proofs.Number.Rounding

/-!
# The order of doubles

`Double.compare` goes by the bits. The documented order of doubles goes by what they stand for:
`Double.order` has every NaN above everything else and all of them equal, then compares the values,
and puts the negative zero below the positive one.

* `Double.compare_of_numbers` — the two are the same where there is no NaN;
* `Double.eq_nan_of_read?` — of the NaNs only two are ever read, which differ in their sign;
* `Double.compare_of_readable` — so the orders of what is read differ only if one of the two is a
  NaN with a sign and the other is not.

The bits put a NaN with a sign below everything, where the documented order has it above.
-/

namespace ReflectCalc.Double

variable {a b c d : Double} {t : Text}

/-! ### The documented order -/

/-- The number that a double stands for, if it is one, with the infinities at the ends. -/
def extValue (d : Double) : WithBot (WithTop ℚ) :=
  if d.isNegative then if d.isInfinite then ⊥ else ((-d.absValue : ℚ) : WithTop ℚ)
  else if d.isInfinite then (⊤ : WithTop ℚ) else (d.absValue : WithTop ℚ)

/-- The documented order of doubles. -/
def order (a b : Double) : Ordering :=
  match a.isNaN, b.isNaN with
  | true, true => .eq
  | true, false => .gt
  | false, true => .lt
  | false, false =>
    (Ord.compare a.extValue b.extValue).then (Ord.compare b.isNegative a.isNegative)

/-! ### Numbers -/

theorem compare_congr {α β : Type} [LinearOrder α] [LinearOrder β] {x y : α} {m n : β}
    (hlt : x < y ↔ m < n) (hgt : y < x ↔ n < m) : Ord.compare x y = Ord.compare m n := by
  rcases lt_trichotomy x y with h | h | h
  · rw [compare_lt_iff_lt.2 h, compare_lt_iff_lt.2 (hlt.1 h)]
  · have heq : m = n := le_antisymm (not_lt.1 fun hnm => (hgt.2 hnm).ne' h)
      (not_lt.1 fun hmn => (hlt.2 hmn).ne h)
    rw [compare_eq_iff_eq.2 h, compare_eq_iff_eq.2 heq]
  · rw [compare_gt_iff_gt.2 h, compare_gt_iff_gt.2 (hgt.1 h)]

theorem absValue_lt_iff (ha : a.isNaN = false) (hb : b.isNaN = false) :
    a.absValue < b.absValue ↔ a.magnitude < b.magnitude :=
  lt_iff_lt_of_le_iff_le (absValue_le_iff hb ha)

theorem magnitude_lt_of_not_isInfinite (hnan : d.isNaN = false) (h : d.isInfinite = false) :
    d.magnitude < infinityMagnitude :=
  lt_of_le_of_ne (magnitude_le hnan) (ne_of_beq_false h)

theorem extValue_lt_iff_of_not_isNegative (ha : a.isNaN = false) (hb : b.isNaN = false)
    (hsa : a.isNegative = false) (hsb : b.isNegative = false) :
    a.extValue < b.extValue ↔ a.magnitude < b.magnitude := by
  simp only [extValue, hsa, hsb, Bool.false_eq_true, if_false]
  cases hia : a.isInfinite with
  | true =>
    -- nothing is above the infinity
    rw [eq_of_beq hia, if_pos rfl]
    refine iff_of_false (fun h => ?_) (magnitude_le hb).not_gt
    split at h
    · exact lt_irrefl _ h
    · exact not_top_lt (WithBot.coe_lt_coe.1 h)
  | false =>
    cases hib : b.isInfinite with
    | true =>
      rw [eq_of_beq hib]
      exact iff_of_true (WithBot.coe_lt_coe.2 (WithTop.coe_lt_top _))
        (magnitude_lt_of_not_isInfinite ha hia)
    | false => exact WithBot.coe_lt_coe.trans (WithTop.coe_lt_coe.trans (absValue_lt_iff ha hb))

theorem extValue_lt_iff_of_isNegative (ha : a.isNaN = false) (hb : b.isNaN = false)
    (hsa : a.isNegative = true) (hsb : b.isNegative = true) :
    a.extValue < b.extValue ↔ b.magnitude < a.magnitude := by
  simp only [extValue, hsa, hsb, if_true]
  cases hib : b.isInfinite with
  | true =>
    rw [eq_of_beq hib]
    exact iff_of_false not_lt_bot (magnitude_le ha).not_gt
  | false =>
    cases hia : a.isInfinite with
    | true =>
      rw [eq_of_beq hia]
      exact iff_of_true (WithBot.bot_lt_coe _) (magnitude_lt_of_not_isInfinite hb hib)
    | false =>
      refine WithBot.coe_lt_coe.trans (WithTop.coe_lt_coe.trans ?_)
      rw [neg_lt_neg_iff, absValue_lt_iff hb ha]

/-- Of two numbers with the same sign, the values are in the order of the bits. -/
theorem extValue_lt_iff (ha : a.isNaN = false) (hb : b.isNaN = false)
    (hsign : a.isNegative = b.isNegative) : a.orderKey < b.orderKey ↔ a.extValue < b.extValue := by
  unfold orderKey
  cases hsb : b.isNegative with
  | true =>
    rw [hsb] at hsign
    rw [extValue_lt_iff_of_isNegative ha hb hsign hsb, if_pos hsign, if_pos rfl]
    omega
  | false =>
    rw [hsb] at hsign
    rw [extValue_lt_iff_of_not_isNegative ha hb hsign hsb, hsign]
    exact Int.ofNat_lt

theorem extValue_le_zero (h : d.isNegative = true) : d.extValue ≤ ((0 : ℚ) : WithTop ℚ) := by
  simp only [extValue, h, if_true]
  split
  · exact bot_le
  · exact WithBot.coe_le_coe.2 (WithTop.coe_le_coe.2 (neg_nonpos.2 d.absValue_nonneg))

theorem zero_le_extValue (h : d.isNegative = false) : ((0 : ℚ) : WithTop ℚ) ≤ d.extValue := by
  simp only [extValue, h, Bool.false_eq_true, if_false]
  split
  · exact WithBot.coe_le_coe.2 le_top
  · exact WithBot.coe_le_coe.2 (WithTop.coe_le_coe.2 d.absValue_nonneg)

theorem orderKey_lt_zero_iff : d.orderKey < 0 ↔ d.isNegative = true := by
  unfold orderKey
  split
  · next h => exact iff_of_true (by omega) h
  · next h => exact iff_of_false (by omega) h

theorem compare_swap (a b : Double) : (a.compare b).swap = b.compare a := by
  have hkey : Ord.compare b.orderKey a.orderKey = (Ord.compare a.orderKey b.orderKey).swap :=
    Std.OrientedCmp.eq_swap
  exact hkey.symm

theorem order_swap (a b : Double) : (a.order b).swap = b.order a := by
  unfold order
  cases a.isNaN <;> cases b.isNaN
  · -- each of the two comparisons is turned around
    have hvalue : (Ord.compare a.extValue b.extValue).swap = Ord.compare b.extValue a.extValue :=
      Std.OrientedCmp.eq_swap.symm
    have hsign : (Ord.compare b.isNegative a.isNegative).swap =
        Ord.compare a.isNegative b.isNegative :=
      Std.OrientedCmp.eq_swap.symm
    simp only [Ordering.swap_then, hvalue, hsign]
  · rfl
  · rfl
  · rfl

theorem order_of_numbers (ha : a.isNaN = false) (hb : b.isNaN = false) : a.order b =
    (Ord.compare a.extValue b.extValue).then (Ord.compare b.isNegative a.isNegative) := by
  rw [order, ha, hb]

theorem compare_of_same_sign (ha : a.isNaN = false) (hb : b.isNaN = false)
    (hsign : a.isNegative = b.isNegative) : a.compare b = a.order b := by
  have hkey : a.compare b = Ord.compare a.extValue b.extValue :=
    compare_congr (extValue_lt_iff ha hb hsign) (extValue_lt_iff hb ha hsign.symm)
  rw [order_of_numbers ha hb, hkey, hsign, compare_eq_iff_eq.2 rfl]
  exact (Ordering.then_eq).symm

/-- A number with a sign is below one without, be it only by the sign. -/
theorem compare_of_signs (ha : a.isNaN = false) (hb : b.isNaN = false)
    (hsa : a.isNegative = true) (hsb : b.isNegative = false) : a.compare b = a.order b := by
  have hkey : a.orderKey < b.orderKey := by
    have hlow := orderKey_lt_zero_iff.2 hsa
    have hhigh : ¬ b.orderKey < 0 := fun h => by simp [orderKey_lt_zero_iff.1 h] at hsb
    omega
  rw [order_of_numbers ha hb, hsa, hsb, Double.compare, compare_lt_iff_lt.2 hkey]
  rcases ((extValue_le_zero hsa).trans (zero_le_extValue hsb)).lt_or_eq with hlt | heq
  · rw [compare_lt_iff_lt.2 hlt]
    rfl
  · rw [compare_eq_iff_eq.2 heq]
    rfl

/-- **Numbers are in the documented order.** -/
theorem compare_of_numbers (ha : a.isNaN = false) (hb : b.isNaN = false) :
    a.compare b = a.order b := by
  cases hsa : a.isNegative with
  | true =>
    cases hsb : b.isNegative with
    | true => exact compare_of_same_sign ha hb (hsa.trans hsb.symm)
    | false => exact compare_of_signs ha hb hsa hsb
  | false =>
    cases hsb : b.isNegative with
    | true => rw [← compare_swap, ← order_swap, compare_of_signs hb ha hsb hsa]
    | false => exact compare_of_same_sign ha hb (hsa.trans hsb.symm)

/-! ### What is read -/

/-- A double that some text is read as. -/
def Readable (d : Double) : Prop := ∃ t, read? t = some d

/-- Of the NaNs, only the quiet one is read, with a sign or without. -/
theorem cases_of_readable (h : d.Readable) : d.isNaN = false ∨ d = nan ∨ d = nan.neg := by
  obtain ⟨t, ht⟩ := h
  obtain ⟨sign, negative, body, hsign, -, hread⟩ := exists_read?_eq t
  rw [hread] at ht
  obtain ⟨e, he, rfl⟩ := Option.map_eq_some_iff.1 ht
  have hbody : (readBody? body).isSome := Option.isSome_iff_exists.2 ⟨e, he⟩
  rcases cases_of_isSome_readBody? hbody with rfl | rfl | ⟨inner, negative', u, hinner, hu, rfl⟩
  · obtain rfl : nan = e := Option.some.inj he
    cases negative with
    | false => exact .inr (.inl rfl)
    | true => exact .inr (.inr rfl)
  · obtain rfl : infinity = e := Option.some.inj he
    cases negative with
    | false => exact .inl (by decide)
    | true => exact .inl (by decide)
  · -- a decimal is rounded to an infinity at most
    obtain ⟨decimal, hdecimal⟩ := exists_readBody?_of_typed hu
    rw [hdecimal inner negative' hinner] at he
    obtain rfl := Option.some.inj he
    have hnumber (negative : Bool) : (ofDecimal negative decimal).isNaN = false := by
      rw [ofDecimal_eq]
      exact isNaN_ofMagnitude (rounded_le _)
    cases negative with
    | false => exact .inl (hnumber negative')
    | true =>
      refine .inl ?_
      rw [negateIf, if_pos rfl, neg_ofDecimal]
      exact hnumber _

/-- Whether the value is a NaN with a sign. -/
def isSignedNaN (d : Double) : Bool := d.isNaN && d.isNegative

theorem eq_of_isSignedNaN (hd : d.Readable) (h : d.isSignedNaN = true) : d = nan.neg := by
  obtain ⟨hnan, hsign⟩ := Bool.and_eq_true_iff.1 h
  rcases cases_of_readable hd with hnumber | rfl | rfl
  · rw [hnumber] at hnan
    cases hnan
  · exact absurd hsign (by decide)
  · rfl

theorem cases_of_not_isSignedNaN (hd : d.Readable) (h : d.isSignedNaN = false) :
    d.isNaN = false ∨ d = nan := by
  rcases cases_of_readable hd with hnumber | rfl | rfl
  · exact .inl hnumber
  · exact .inr rfl
  · exact absurd h (by decide)

/-- A number stands between the two NaNs. -/
theorem orderKey_bounds (h : d.isNaN = false) :
    nan.neg.orderKey < d.orderKey ∧ d.orderKey < nan.orderKey := by
  have hle := magnitude_le h
  have hkey : -(infinityMagnitude : ℤ) - 1 ≤ d.orderKey ∧ d.orderKey ≤ infinityMagnitude := by
    unfold orderKey
    split <;> omega
  have hlow : nan.neg.orderKey < -(infinityMagnitude : ℤ) - 1 := by decide
  have hhigh : (infinityMagnitude : ℤ) < nan.orderKey := by decide
  exact ⟨hlow.trans_le hkey.1, hkey.2.trans_lt hhigh⟩

theorem compare_signedNaN (hd : d.Readable) (h : d.isSignedNaN = false) :
    nan.neg.compare d = .lt := by
  rcases cases_of_not_isSignedNaN hd h with hnumber | rfl
  · exact compare_lt_iff_lt.2 (orderKey_bounds hnumber).1
  · decide

theorem compare_of_not_isSignedNaN (ha : a.Readable) (hb : b.Readable)
    (hsa : a.isSignedNaN = false) (hsb : b.isSignedNaN = false) : a.compare b = a.order b := by
  have hnan {d : Double} (h : d.isNaN = false) : d.compare nan = d.order nan := by
    have horder : d.order nan = .lt := by
      rw [order, h]
      rfl
    rw [horder]
    exact compare_lt_iff_lt.2 (orderKey_bounds h).2
  rcases cases_of_not_isSignedNaN ha hsa with hna | rfl
  · rcases cases_of_not_isSignedNaN hb hsb with hnb | rfl
    · exact compare_of_numbers hna hnb
    · exact hnan hna
  · rcases cases_of_not_isSignedNaN hb hsb with hnb | rfl
    · rw [← compare_swap, ← order_swap, hnan hnb]
    · decide

/-- **The bits keep the documented order of what is read, but for a NaN with a sign**, which they
put below everything else. -/
theorem compare_of_readable (ha : a.Readable) (hb : b.Readable) : a.compare b =
    if a.isSignedNaN = b.isSignedNaN then a.order b else if a.isSignedNaN then .lt else .gt := by
  cases hsa : a.isSignedNaN with
  | true =>
    obtain rfl := eq_of_isSignedNaN ha hsa
    cases hsb : b.isSignedNaN with
    | true =>
      obtain rfl := eq_of_isSignedNaN hb hsb
      decide
    | false => exact compare_signedNaN hb hsb
  | false =>
    cases hsb : b.isSignedNaN with
    | true =>
      obtain rfl := eq_of_isSignedNaN hb hsb
      rw [← compare_swap, compare_signedNaN ha hsa]
      rfl
    | false => exact compare_of_not_isSignedNaN ha hb hsa hsb

/-- With one signed NaN, the two orders never agree. -/
theorem compare_eq_order_iff (ha : a.Readable) (hb : b.Readable) :
    a.compare b = a.order b ↔ a.isSignedNaN = b.isSignedNaN := by
  have hbelow {a b : Double} (h : a.isSignedNaN = true) : a.order b ≠ .lt := by
    unfold order
    rw [(Bool.and_eq_true_iff.1 h).1]
    cases b.isNaN with
    | true => exact fun h => nomatch h
    | false => exact fun h => nomatch h
  rw [compare_of_readable ha hb]
  refine ⟨fun h => ?_, fun h => if_pos h⟩
  by_contra hne
  rw [if_neg hne] at h
  cases hsa : a.isSignedNaN with
  | true =>
    rw [hsa] at h
    exact hbelow hsa h.symm
  | false =>
    have hsb : b.isSignedNaN = true := by
      cases hsb : b.isSignedNaN with
      | true => rfl
      | false => exact absurd (hsa.trans hsb.symm) hne
    have hgt : a.order b = .gt := by
      rw [← h, hsa]
      rfl
    rw [← order_swap] at hgt
    exact hbelow hsb (Ordering.swap_inj.1 hgt)

/-! ### The order of the bits -/

theorem compare_trans (hab : a.compare b ≠ .gt) (hbc : b.compare c ≠ .gt) : a.compare c ≠ .gt := by
  have hab' : a.orderKey ≤ b.orderKey := compare_le_iff_le.1 hab
  have hbc' : b.orderKey ≤ c.orderKey := compare_le_iff_le.1 hbc
  exact compare_le_iff_le.2 (hab'.trans hbc')

theorem compare_eq_eq_iff : a.compare b = .eq ↔ a = b := by
  unfold Double.compare
  rw [compare_eq_iff_eq]
  refine ⟨fun h => ?_, fun h => by rw [h]⟩
  have hsign : a.isNegative = b.isNegative := by
    rw [Bool.eq_iff_iff, ← orderKey_lt_zero_iff, ← orderKey_lt_zero_iff, h]
  refine ext_magnitude hsign ?_
  unfold orderKey at h
  rw [hsign] at h
  split at h <;> omega

end ReflectCalc.Double
