import ReflectCalc.Number.Layout
import ReflectCalc.Number.Read
import ReflectCalc.Proofs.Number.Numeral

/-!
# The written forms of doubles

What the text of a finite double looks like. Its digits are those of the shortest decimal, which is
not zero, so a leading zero stands only before the point of a value below one:

* `Double.digits_shortest_ne_zero` — the shortest decimal of a double other than zero is not zero;
* `Decimal.Whole` and `Decimal.Digits` are the digits before a point and those after it;
* `Layout.positional_eq` — a positional text has such digits on either side of its point, and they
  have the value of the digits that are written.
-/

namespace ReflectCalc

namespace Decimal

variable {ds fs rest : Text} {n : Nat}

/-! ### Runs of digits -/

/-- A text of digits only. -/
def Digits (ds : Text) : Prop := ∀ c ∈ ds, isDigit c = true

instance (ds : Text) : Decidable (Digits ds) := List.decidableBAll (isDigit · = true) ds

/-- Digits that can stand before a point: zero alone, or some that do not start with one. -/
structure Whole (ds : Text) : Prop where
  digits : Digits ds
  ne_nil : ds ≠ []
  zero : ds.head? = some '0' → ds = ['0']

theorem digits_nil : Digits [] := by
  intro c hc
  cases hc

theorem Digits.append (h : Digits ds) (h' : Digits fs) : Digits (ds ++ fs) := by
  intro c hc
  rcases List.mem_append.1 hc with hc | hc
  · exact h c hc
  · exact h' c hc

theorem digits_zeros (k : Nat) : Digits (List.replicate k '0') := by
  intro c hc
  rw [List.eq_of_mem_replicate hc]
  rfl

theorem digits_ofNat (n : Nat) : Digits (Numeral.ofNat n) :=
  fun _ h => Numeral.isDigit_of_mem_ofNat h

theorem takeWhile_isDigit (hds : Digits ds) (hrest : ∀ c ∈ rest.head?, isDigit c = false) :
    (ds ++ rest).takeWhile isDigit = ds := by
  have hstop : rest.takeWhile isDigit = [] := by
    cases rest with
    | nil => rfl
    | cons c t => exact List.takeWhile_cons_of_neg (by simp [hrest c rfl])
  rw [List.takeWhile_append_of_pos hds, hstop, List.append_nil]

theorem dropWhile_isDigit (hds : Digits ds) (hrest : ∀ c ∈ rest.head?, isDigit c = false) :
    (ds ++ rest).dropWhile isDigit = rest := by
  rw [List.dropWhile_append_of_pos hds]
  cases rest with
  | nil => rfl
  | cons c t => exact List.dropWhile_cons_of_neg (by simp [hrest c rfl])

/-- The leading digit of a positive number is not zero. -/
theorem exists_cons_ofNat (h : n ≠ 0) : ∃ c ds, Numeral.ofNat n = c :: ds ∧ c ≠ '0' := by
  induction n using Nat.strongRecOn with
  | ind n ih =>
    rw [Numeral.ofNat_eq]
    split
    · next hn =>
      have hdigit : ∀ d < 10, d ≠ 0 → d.digitChar ≠ '0' := by decide
      exact ⟨_, [], rfl, hdigit n hn h⟩
    · next hn =>
      -- the leading digit is the one of the tenth part
      obtain ⟨c, ds, hds, hc⟩ := ih (n / 10) (by omega) (by omega)
      exact ⟨c, ds ++ [(n % 10).digitChar], by rw [hds]; rfl, hc⟩

theorem whole_zero : Whole ['0'] where
  digits := digits_zeros 1
  ne_nil := List.cons_ne_nil _ _
  zero := fun _ => rfl

theorem whole_cons {c : Char} (h : Digits (c :: ds)) (hc : c ≠ '0') : Whole (c :: ds) where
  digits := h
  ne_nil := List.cons_ne_nil _ _
  zero := fun hzero => absurd (Option.some.inj hzero) hc

/-- A numeral is zero alone or does not start with one. -/
theorem whole_ofNat (n : Nat) : Whole (Numeral.ofNat n) := by
  by_cases h : n = 0
  · rw [h]
    exact whole_zero
  · obtain ⟨c, ds, hds, hc⟩ := exists_cons_ofNat h
    exact hds ▸ whole_cons (hds ▸ digits_ofNat n) hc

/-- A number other than zero with further digits. -/
theorem whole_ofNat_append (hn : n ≠ 0) (h : Digits ds) : Whole (Numeral.ofNat n ++ ds) := by
  obtain ⟨c, cs, hcs, hc⟩ := exists_cons_ofNat hn
  have hdigits := (digits_ofNat n).append h
  rw [hcs] at hdigits ⊢
  exact whole_cons hdigits hc

/-- The first digits of a number other than zero. -/
theorem whole_take_ofNat (hn : n ≠ 0) (k : Nat) : Whole ((Numeral.ofNat n).take (k + 1)) := by
  obtain ⟨c, ds, hds, hc⟩ := exists_cons_ofNat hn
  have hdigits : Digits ((Numeral.ofNat n).take (k + 1)) :=
    fun c hc => digits_ofNat n c (List.mem_of_mem_take hc)
  rw [hds, List.take_succ_cons] at hdigits ⊢
  exact whole_cons hdigits hc

theorem digits_drop_ofNat (n k : Nat) : Digits ((Numeral.ofNat n).drop k) :=
  fun c hc => digits_ofNat n c (List.mem_of_mem_drop hc)

/-! ### The value of digits -/

/-- The value of digits after others that come to `n`. -/
theorem foldl_digits (ds : Text) :
    ds.foldl (fun n c => 10 * n + (c.toNat - '0'.toNat)) n =
      n * tenTo ds.length + digitsValue ds := by
  induction ds generalizing n with
  | nil => simp [digitsValue, tenTo]
  | cons c ds ih =>
    rw [digitsValue, List.foldl_cons, List.foldl_cons, ih, ih (n := _ + _), List.length_cons]
    simp only [tenTo, Nat.pow_eq, Nat.pow_succ', Nat.mul_zero, Nat.zero_add, Nat.add_mul,
      Nat.mul_assoc, Nat.mul_left_comm n 10, Nat.add_assoc]

theorem digitsValue_append (ds fs : Text) :
    digitsValue (ds ++ fs) = digitsValue ds * tenTo fs.length + digitsValue fs := by
  rw [digitsValue, List.foldl_append, foldl_digits]
  rfl

theorem digitsValue_zeros (k : Nat) : digitsValue (List.replicate k '0') = 0 := by
  induction k with
  | zero => rfl
  | succ k ih => exact ih

/-- The digits of a number have its value. -/
theorem digitsValue_ofNat (n : Nat) : digitsValue (Numeral.ofNat n) = n := by
  induction n using Nat.strongRecOn with
  | ind n ih =>
    have hdigit : ∀ d < 10, digitsValue [d.digitChar] = d := by decide
    rw [Numeral.ofNat_eq]
    split
    · next hn => exact hdigit n hn
    · next hn =>
      rw [digitsValue_append, ih (n / 10) (by omega), hdigit (n % 10) (by omega)]
      exact Nat.div_add_mod' n 10

/-! ### Values of decimals -/

/-- Whether two decimals have the same value: the digits agree once the one with the greater power
of ten has its digits scaled. -/
def SameValue (a b : Decimal) : Prop :=
  a.digits * tenTo (a.exp - b.exp).toNat = b.digits * tenTo (b.exp - a.exp).toNat

theorem SameValue.refl (a : Decimal) : SameValue a a := rfl

/-- Zeros at the end of the digits make up for a smaller power of ten. -/
theorem sameValue_scaled (n : Nat) (e : Int) (k : Nat) :
    SameValue ⟨n * tenTo k, e - k⟩ ⟨n, e⟩ := by
  have hdown : (e - k - e).toNat = 0 := by omega
  have hup : (e - (e - k)).toNat = k := by omega
  simp only [SameValue, hdown, hup]
  exact Nat.mul_one _

/-! ### Trailing zeros -/

theorem digits_stripZeros_ne_zero {d : Decimal} (h : d.digits ≠ 0) (fuel : Nat) :
    (stripZeros fuel d).digits ≠ 0 := by
  induction fuel generalizing d with
  | zero => exact h
  | succ fuel ih =>
    rw [stripZeros]
    split
    · next hd =>
      -- a multiple of ten other than zero has a tenth part other than zero
      refine ih (d := ⟨d.digits / 10, d.exp + 1⟩) ?_
      change d.digits / 10 ≠ 0
      omega
    · exact h

end Decimal

namespace Double

variable {d : Double}

/-! ### The shortest decimal -/

theorem ofMagnitude_zero_ne_abs (h : d.isZero = false) : ofMagnitude false 0 ≠ d.abs := by
  -- magnitudes have 63 bits, so none is lost in the word
  intro heq
  have hbits : (0 : UInt64) = UInt64.ofNat (0 + d.magnitude) := congrArg bits heq
  have hlt : d.magnitude < 2 ^ 63 := Nat.mod_lt _ (by decide)
  have hnat := congrArg UInt64.toNat hbits
  rw [UInt64.toNat_ofNat_of_lt' (by rw [Nat.zero_add]; exact Nat.lt_trans hlt (by decide))] at hnat
  simp [isZero] at h
  simp at hnat
  omega

theorem digits_ne_zero_of_readsBack {a : Decimal} (h : d.isZero = false)
    (ha : readsBack d a = true) : a.digits ≠ 0 := by
  intro hzero
  unfold readsBack ofDecimal at ha
  rw [if_pos hzero] at ha
  exact ofMagnitude_zero_ne_abs h (eq_of_beq ha)

theorem significand_ne_zero (h : d.isZero = false) : d.significand ≠ 0 := by
  unfold significand
  split
  · simpa [isZero] using h
  · exact Nat.ne_of_gt (Nat.add_pos_left (Nat.pow_pos (by decide)) _)

theorem digits_exactDecimal_ne_zero (h : d.isZero = false) : d.exactDecimal.digits ≠ 0 := by
  unfold exactDecimal
  split
  · exact Nat.mul_ne_zero (significand_ne_zero h) (Nat.ne_of_gt (Nat.pow_pos (by decide)))
  · exact Nat.mul_ne_zero (significand_ne_zero h) (Nat.ne_of_gt (Nat.pow_pos (by decide)))

/-- The shortest decimal of a double other than zero is not zero. -/
theorem digits_shortest_ne_zero {tie : Tie} (h : d.isZero = false) :
    (d.shortest tie).digits ≠ 0 := by
  refine Decimal.digits_stripZeros_ne_zero ?_ _
  -- before its trailing zeros are moved, it reads back or is the exact value
  generalize List.flatMap _ _ = candidates
  cases hfind : candidates.find? (readsBack d) with
  | none => exact digits_exactDecimal_ne_zero h
  | some a => exact digits_ne_zero_of_readsBack h (List.find?_some hfind)

end Double

namespace Layout

open Decimal

variable {n : Nat}

/-! ### Digits around a point -/

/-- A positional text has digits on either side of its point, and they have the value of the digits
that are written, the leading one at the place `10 ^ e`. -/
theorem positional_eq (hn : n ≠ 0) (e : Int) :
    ∃ whole fraction, positional (Numeral.ofNat n) e = whole ++ '.' :: fraction ∧ Whole whole ∧
      Digits fraction ∧ fraction ≠ [] ∧
      SameValue ⟨digitsValue (whole ++ fraction), -(fraction.length : Int)⟩
        ⟨n, e + 1 - (Numeral.ofNat n).length⟩ := by
  unfold positional
  split
  · next he =>
    -- zeros between the point and the digits
    refine ⟨['0'], List.replicate (-e - 1).toNat '0' ++ Numeral.ofNat n, rfl, whole_zero,
      (digits_zeros _).append (digits_ofNat n),
      List.append_ne_nil_of_right_ne_nil _ Numeral.ofNat_ne_nil, ?_⟩
    have hvalue : digitsValue (['0'] ++ (List.replicate (-e - 1).toNat '0' ++ Numeral.ofNat n)) =
        n := by
      rw [digitsValue_append, digitsValue_append, digitsValue_zeros, digitsValue_ofNat]
      simp [digitsValue]
    rw [hvalue, List.length_append, List.length_replicate, SameValue]
    congr <;> omega
  · next he =>
    split
    · next hshort =>
      -- zeros between the digits and the point
      generalize hk : e.toNat + 1 - (Numeral.ofNat n).length = k
      refine ⟨Numeral.ofNat n ++ List.replicate k '0', ['0'], rfl,
        whole_ofNat_append hn (digits_zeros k), digits_zeros 1, List.cons_ne_nil _ _, ?_⟩
      have hvalue : digitsValue (Numeral.ofNat n ++ List.replicate k '0' ++ ['0']) =
          n * tenTo (k + 1) := by
        rw [List.append_assoc, ← List.replicate_succ', digitsValue_append, digitsValue_zeros,
          digitsValue_ofNat, List.length_replicate]
        rfl
      have hexp : -((['0'] : Text).length : Int) =
          e + 1 - (Numeral.ofNat n).length - (k + 1 : Nat) := by
        simp only [List.length_singleton]
        omega
      rw [hvalue, hexp]
      exact sameValue_scaled _ _ _
    · next hlong =>
      -- the point among the digits
      refine ⟨_, _, rfl, whole_take_ofNat hn _, digits_drop_ofNat n _, ?_, ?_⟩
      · intro hnil
        exact hlong (List.drop_eq_nil_iff.1 hnil)
      · rw [List.take_append_drop, digitsValue_ofNat, List.length_drop, SameValue]
        congr <;> omega

end Layout

end ReflectCalc
