import Mathlib.Data.Int.ModEq
import Mathlib.Data.Rat.Floor
import ReflectCalc.Builtin.Catalog
import ReflectCalc.Proofs.Engine.Checks

/-!
# What the methods of integers compute

The methods of integers against integer arithmetic. The machine rounds quotients towards zero and
wraps around at 32 bits, and the methods are to round down, and some of them are to be exact.

* `fdiv_eq_tdiv_sub` compares the two ways of rounding, and `floorDiv_eq` shows that the test by
  the exclusive or finds the quotients that have to be taken down. What is taken down is far from
  the least integer (`predecessor_div`), since something is left only by a divisor of two or more;
* `FloorDivision` says what quotient and rest are to be, and `floorDivision` that they are;
* `Exact` and `Wraps` are the two ways in which a result can fit into 32 bits.

`integer_arithmetic` is the main result, on the methods as they are found in the catalog.
-/

namespace ReflectCalc.Builtin

/-! ### Division rounded down -/

section Division

variable {x y : Int32}

theorem lt_zero_iff : x < 0 ↔ x.toInt < 0 := Int32.lt_iff_toInt_lt

/-- The exclusive or is negative if the signs differ. -/
theorem xor_lt_zero_iff : x ^^^ y < 0 ↔ ¬(x.toInt < 0 ↔ y.toInt < 0) := by
  rw [← lt_zero_iff, ← lt_zero_iff, Int32.lt_iff_toBitVec_slt]
  simp [BitVec.slt_zero_iff_msb_cond, Int32.lt_iff_toBitVec_slt]

theorem div_eq_ofInt (x y : Int32) : x / y = Int32.ofInt (x.toInt.tdiv y.toInt) := by
  rw [← Int32.toInt_inj, Int32.toInt_div, Int32.toInt_ofInt]

theorem mod_eq_zero_iff : x % y = 0 ↔ y.toInt ∣ x.toInt := by
  rw [← Int32.toInt_inj, Int32.toInt_mod, Int32.toInt_zero, Int.dvd_iff_tmod_eq_zero]

theorem toInt_ne_zero (hy : y ≠ 0) : y.toInt ≠ 0 := fun h => hy (Int32.toInt_inj.1 h)

/-- Where something is left, the quotient is far from the least integer. -/
theorem toInt_div_of_not_dvd (hy : y ≠ 0) (h : ¬y.toInt ∣ x.toInt) :
    (x / y).toInt = x.toInt.tdiv y.toInt ∧ -2 ^ 30 ≤ x.toInt.tdiv y.toInt := by
  have hx : x.toInt.natAbs ≤ 2 ^ 31 := by
    have hle := x.le_toInt
    have hlt := x.toInt_lt
    omega
  have hdivisor : 2 ≤ y.toInt.natAbs := by
    have hzero : y.toInt ≠ 0 := toInt_ne_zero hy
    have hone : y.toInt.natAbs ≠ 1 := fun h1 => h (Int.natAbs_dvd.1 (by simp [h1]))
    omega
  have hquotient : (x.toInt.tdiv y.toInt).natAbs ≤ 2 ^ 30 := by
    rw [Int.natAbs_tdiv]
    calc x.toInt.natAbs / y.toInt.natAbs
        ≤ x.toInt.natAbs / 2 := Nat.div_le_div_left hdivisor (by decide)
      _ ≤ 2 ^ 30 := by omega
  constructor
  · rw [div_eq_ofInt]
    exact Int32.toInt_ofInt_of_le (by omega) (by omega)
  · omega

/-- Rounding down is one below rounding towards zero just if something is left and the signs
differ. -/
theorem fdiv_eq_tdiv_sub {a b : Int} (hb : b ≠ 0) :
    a.fdiv b = a.tdiv b - if ¬b ∣ a ∧ ¬(a < 0 ↔ b < 0) then 1 else 0 := by
  rw [Int.fdiv_eq_tdiv]
  by_cases hdvd : b ∣ a
  · simp [hdvd]
  rcases Int.lt_or_gt_of_ne hb with hneg | hpos
  · rw [Int.sign_eq_neg_one_of_neg hneg]
    by_cases ha : 0 ≤ a
    · simp [hdvd, ha, hneg]
    · simp [hdvd, ha, hneg]
  · rw [Int.sign_eq_one_of_pos hpos]
    by_cases ha : 0 ≤ a
    · simp [hdvd, ha, hpos.le, hpos.not_gt]
    · simp [hdvd, ha, hpos.le, hpos.not_gt, lt_of_not_ge ha]

/-- What the quotient is taken down by does not overflow. -/
theorem predecessor_div (hy : y ≠ 0) (h : ¬y.toInt ∣ x.toInt) :
    predecessor (x / y) = .ok (x / y - 1) ∧ (x / y - 1).toInt = (x / y).toInt - 1 := by
  obtain ⟨hquotient, hle⟩ := toInt_div_of_not_dvd hy h
  have hmin : x / y ≠ Int32.minValue := by
    intro hmin
    rw [hmin, Int32.toInt_minValue] at hquotient
    omega
  constructor
  · rw [predecessor, if_neg hmin]
  · rw [Int32.toInt_sub, Int32.toInt_one]
    have hlt := (x / y).toInt_lt
    apply Int.bmod_eq_of_le <;> omega

theorem floorDiv_eq (hy : y ≠ 0) :
    floorDiv x y = .ok (Int32.ofInt (x.toInt.fdiv y.toInt)) := by
  have hrest : x % y ≠ 0 ∧ x ^^^ y < 0 ↔
      ¬y.toInt ∣ x.toInt ∧ ¬(x.toInt < 0 ↔ y.toInt < 0) := by
    rw [ne_eq, mod_eq_zero_iff, xor_lt_zero_iff]
  rw [fdiv_eq_tdiv_sub (toInt_ne_zero hy)]
  simp only [floorDiv, quotient, remainder, if_neg hy, bind, Except.bind, hrest]
  split
  · rename_i h
    rw [(predecessor_div hy h.1).1, Int32.ofInt_sub, ← div_eq_ofInt]
    rfl
  · rw [sub_zero, ← div_eq_ofInt]
    rfl

theorem floorMod_eq (hy : y ≠ 0) :
    floorMod x y = .ok (Int32.ofInt (x.toInt.fmod y.toInt)) := by
  simp only [floorMod, floorDiv_eq hy, bind, Except.bind]
  rw [Int.fmod_def, mul_comm, Int32.ofInt_sub, Int32.ofInt_mul, Int32.ofInt_toInt, Int32.ofInt_toInt]
  rfl

/-- Rounding towards zero would give `-3` and `-1`. -/
example : floorDiv (-7) 2 = .ok (-4) ∧ floorMod (-7) 2 = .ok 1 := ⟨rfl, rfl⟩

/-- What is left has the sign of the divisor and is smaller. -/
theorem fmod_bounds {a b : Int} (hb : b ≠ 0) :
    |a.fmod b| < |b| ∧ (0 < b → 0 ≤ a.fmod b) ∧ (b < 0 → a.fmod b ≤ 0) := by
  rcases Int.lt_or_gt_of_ne hb with hneg | hpos
  · have hflip : a.fmod b = -(-a).fmod (-b) := by rw [Int.neg_fmod_neg, neg_neg]
    have hnonneg := Int.fmod_nonneg_of_pos (-a) (neg_pos.2 hneg)
    have hlt := Int.fmod_lt_of_pos (-a) (neg_pos.2 hneg)
    rw [hflip, abs_neg, abs_of_nonneg hnonneg, abs_of_neg hneg]
    exact ⟨hlt, fun hpos => absurd hneg hpos.not_gt, fun _ => neg_nonpos.2 hnonneg⟩
  · have hnonneg := Int.fmod_nonneg_of_pos a hpos
    have hlt := Int.fmod_lt_of_pos a hpos
    rw [abs_of_nonneg hnonneg, abs_of_pos hpos]
    exact ⟨hlt, fun _ => hnonneg, fun hneg => absurd hneg hpos.not_gt⟩

theorem floor_div {a b : Int} (hb : b ≠ 0) : ⌊(a : ℚ) / b⌋ = a.fdiv b := by
  have hpositive : ∀ {a b : Int}, 0 < b → ⌊(a : ℚ) / b⌋ = a.fdiv b := by
    intro a b hpos
    lift b to ℕ using hpos.le
    rw [Int.cast_natCast, Rat.floor_intCast_div_natCast, Int.fdiv_eq_ediv_of_nonneg _ hpos.le]
  rcases Int.lt_or_gt_of_ne hb with hneg | hpos
  · rw [← Int.neg_fdiv_neg, ← hpositive (neg_pos.2 hneg), Int.cast_neg, Int.cast_neg, neg_div_neg_eq]
  · exact hpositive hpos

/-- The quotient is an integer of 32 bits but in one case. -/
theorem toInt_ofInt_fdiv_iff (hy : y ≠ 0) :
    (Int32.ofInt (x.toInt.fdiv y.toInt)).toInt = x.toInt.fdiv y.toInt ↔
      ¬(x = Int32.minValue ∧ y = -1) := by
  have hle := x.le_toInt
  have hlt := x.toInt_lt
  have hsize : (x.toInt.fdiv y.toInt).natAbs ≤ x.toInt.natAbs := Int.natAbs_fdiv_le_natAbs _ _
  constructor
  · rintro heq ⟨rfl, rfl⟩
    revert heq
    decide
  · intro h
    apply Int32.toInt_ofInt_of_le
    · omega
    by_contra hge
    have hquotient : x.toInt.fdiv y.toInt = 2 ^ 31 := by omega
    have hback := Int.mul_fdiv_add_fmod x.toInt y.toInt
    obtain ⟨hsmall, hpositive, hnegative⟩ := fmod_bounds (a := x.toInt) (toInt_ne_zero hy)
    rw [hquotient] at hback
    rw [abs_lt] at hsmall
    -- a quotient this great takes the least dividend and the greatest negative divisor
    rcases Int.lt_or_gt_of_ne (toInt_ne_zero hy) with hneg | hpos
    · rw [abs_of_neg hneg] at hsmall
      have hrest := hnegative hneg
      have hx : x.toInt = -2 ^ 31 := by omega
      have hdivisor : y.toInt = -1 := by omega
      exact h ⟨Int32.toInt_inj.1 hx, Int32.toInt_inj.1 hdivisor⟩
    · have hrest := hpositive hpos
      omega

end Division

/-! ### What the methods of integers give -/

/-- A call ends with an arithmetic fault that says this. -/
def Raises (outcome : Except EngineError Value) (message : Text) : Prop :=
  ∃ f, outcome = .error (.fault f) ∧ f.category = "ArithmeticException" ∧ f.message = message

/-- A call gives an integer exactly: it returns the integer if this has 32 bits, and raises a fault
otherwise. -/
structure Exact (outcome : Except EngineError Value) (n : Int) : Prop where
  returns_iff : (∃ v : Int32, outcome = .ok (.int v) ∧ v.toInt = n) ↔ -2 ^ 31 ≤ n ∧ n < 2 ^ 31
  raises_iff : Raises outcome "integer overflow" ↔ ¬(-2 ^ 31 ≤ n ∧ n < 2 ^ 31)

/-- A call gives an integer up to a multiple of `2 ^ 32`. -/
def Wraps (outcome : Except EngineError Value) (n : Int) : Prop :=
  ∃ v : Int32, outcome = .ok (.int v) ∧ v.toInt ≡ n [ZMOD 2 ^ 32]

/-- Two integers are the quotient that is rounded down and what it leaves. -/
structure FloorDivision (x y q m : Int32) : Prop where
  /-- The quotient is the floor of the rational one, wrapped around to 32 bits. -/
  quotient_eq : q = Int32.ofInt ⌊(x.toInt : ℚ) / y.toInt⌋
  /-- It wraps around in one case only. -/
  toInt_quotient_iff : q.toInt = ⌊(x.toInt : ℚ) / y.toInt⌋ ↔ ¬(x = Int32.minValue ∧ y = -1)
  /-- The rest is that of the true quotient. -/
  toInt_rest : m.toInt = x.toInt - y.toInt * ⌊(x.toInt : ℚ) / y.toInt⌋
  abs_rest_lt : |m.toInt| < |y.toInt|
  rest_nonneg : 0 < y.toInt → 0 ≤ m.toInt
  rest_nonpos : y.toInt < 0 → m.toInt ≤ 0
  /-- Both together give the dividend back, in wrapping arithmetic. -/
  quotient_mul_add : q * y + m = x

/-- What a call gets from a method that computes an integer. -/
def intResult (outcome : Except Failure Int32) : Except EngineError Value :=
  (Outcome.ofExcept (outcome.map .int)).result

section Methods

variable {x y : Int32} {message : Text}

theorem not_raises_ok (v : Int32) : ¬Raises (intResult (.ok v)) message := by
  rintro ⟨f, hf, -⟩
  cases hf

theorem exact_exactly (n : Int) : Exact (intResult (exactly n)) n := by
  have hrange : -2147483648 ≤ n ∧ n ≤ 2147483647 ↔ -2 ^ 31 ≤ n ∧ n < 2 ^ 31 := by omega
  unfold exactly
  rw [if_congr hrange rfl rfl]
  by_cases h : -2 ^ 31 ≤ n ∧ n < 2 ^ 31
  · rw [if_pos h]
    constructor
    · exact iff_of_true ⟨_, rfl, Int32.toInt_ofInt_of_le h.1 h.2⟩ h
    · exact iff_of_false (not_raises_ok _) (not_not.2 h)
  · rw [if_neg h]
    constructor
    · refine iff_of_false ?_ h
      rintro ⟨v, hv, -⟩
      cases hv
    · exact iff_of_true ⟨_, rfl, rfl, rfl⟩ h

theorem floorDivision (hy : y ≠ 0) :
    FloorDivision x y (Int32.ofInt (x.toInt.fdiv y.toInt)) (Int32.ofInt (x.toInt.fmod y.toInt)) := by
  obtain ⟨hsmall, hpositive, hnegative⟩ := fmod_bounds (a := x.toInt) (toInt_ne_zero hy)
  have hrest : (Int32.ofInt (x.toInt.fmod y.toInt)).toInt = x.toInt.fmod y.toInt := by
    have hle : |y.toInt| ≤ 2 ^ 31 := abs_le.2 ⟨y.le_toInt, y.toInt_lt.le⟩
    obtain ⟨hlow, hhigh⟩ := abs_lt.1 (hsmall.trans_le hle)
    exact Int32.toInt_ofInt_of_le hlow.le hhigh
  have hfloor := floor_div (a := x.toInt) (toInt_ne_zero hy)
  constructor
  · rw [hfloor]
  · rw [hfloor]
    exact toInt_ofInt_fdiv_iff hy
  · rw [hrest, hfloor, Int.fmod_def]
  · rw [hrest]
    exact hsmall
  · rw [hrest]
    exact hpositive
  · rw [hrest]
    exact hnegative
  · have hback := congrArg Int32.ofInt (Int.mul_fdiv_add_fmod x.toInt y.toInt)
    rw [Int32.ofInt_add, Int32.ofInt_mul, Int32.ofInt_toInt, Int32.ofInt_toInt] at hback
    rw [Int32.mul_comm, hback]

theorem wraps_add (x y : Int32) : Wraps (.ok (.int (x + y))) (x.toInt + y.toInt) := by
  refine ⟨_, rfl, ?_⟩
  rw [Int32.toInt_add]
  exact Int.bmod_emod

theorem wraps_absolute (x : Int32) : Wraps (.ok (.int (absolute x))) |x.toInt| := by
  refine ⟨_, rfl, ?_⟩
  unfold absolute
  split
  · rename_i h
    rw [abs_of_neg (lt_zero_iff.1 h), Int32.toInt_neg]
    exact Int.bmod_emod
  · rename_i h
    rw [abs_of_nonneg (not_lt.1 fun hneg => h (lt_zero_iff.2 hneg))]

theorem raises_floorDiv_iff : Raises (intResult (floorDiv x y)) "/ by zero" ↔ y = 0 := by
  by_cases hy : y = 0
  · rw [floorDiv, if_pos hy]
    exact iff_of_true ⟨_, rfl, rfl, rfl⟩ hy
  · rw [floorDiv_eq hy]
    exact iff_of_false (not_raises_ok _) hy

theorem raises_floorMod_iff : Raises (intResult (floorMod x y)) "/ by zero" ↔ y = 0 := by
  by_cases hy : y = 0
  · rw [floorMod, floorDiv, if_pos hy]
    exact iff_of_true ⟨_, rfl, rfl, rfl⟩ hy
  · rw [floorMod_eq hy]
    exact iff_of_false (not_raises_ok _) hy

end Methods

/-- **The methods of integers are exact**, for all integers of 32 bits, or say that they are not.
The quotient is taken down without an overflow. -/
theorem integer_arithmetic (r : Readings) (x y : Int32) :
    (Raises ((catalog r).call "java.lang.Math" "floorDiv" [.int x, .int y]) "/ by zero" ↔ y = 0) ∧
    (Raises ((catalog r).call "java.lang.Math" "floorMod" [.int x, .int y]) "/ by zero" ↔ y = 0) ∧
    (y ≠ 0 → ∃ q m,
      (catalog r).call "java.lang.Math" "floorDiv" [.int x, .int y] = .ok (.int q) ∧
      (catalog r).call "java.lang.Math" "floorMod" [.int x, .int y] = .ok (.int m) ∧
      FloorDivision x y q m) ∧
    (∀ q rest, quotient x y = .ok q → remainder x y = .ok rest → rest ≠ 0 → x ^^^ y < 0 →
      ∃ p, predecessor q = .ok p ∧ p.toInt = q.toInt - 1) ∧
    Exact ((catalog r).call "java.lang.Math" "addExact" [.int x, .int y]) (x.toInt + y.toInt) ∧
    Exact ((catalog r).call "java.lang.Math" "subtractExact" [.int x, .int y])
      (x.toInt - y.toInt) ∧
    Exact ((catalog r).call "java.lang.Math" "multiplyExact" [.int x, .int y])
      (x.toInt * y.toInt) ∧
    Exact ((catalog r).call "java.lang.Math" "negateExact" [.int x]) (-x.toInt) ∧
    Wraps ((catalog r).call "java.lang.Integer" "sum" [.int x, .int y]) (x.toInt + y.toInt) ∧
    Wraps ((catalog r).call "java.lang.Math" "abs" [.int x]) |x.toInt| := by
  -- each method is found under its name and the kinds of its arguments
  have hdiv : (catalog r).call "java.lang.Math" "floorDiv" [.int x, .int y] =
      intResult (floorDiv x y) := rfl
  have hmod : (catalog r).call "java.lang.Math" "floorMod" [.int x, .int y] =
      intResult (floorMod x y) := rfl
  rw [hdiv, hmod]
  refine ⟨raises_floorDiv_iff, raises_floorMod_iff, ?_, ?_, exact_exactly _, exact_exactly _,
    exact_exactly _, exact_exactly _, wraps_add x y, wraps_absolute x⟩
  · intro hy
    rw [floorDiv_eq hy, floorMod_eq hy]
    exact ⟨_, _, rfl, rfl, floorDivision hy⟩
  · intro q rest hq hrest hne _
    by_cases hy : y = 0
    · rw [quotient, if_pos hy] at hq
      cases hq
    rw [quotient, if_neg hy] at hq
    rw [remainder, if_neg hy] at hrest
    cases hq
    cases hrest
    obtain ⟨hp, hvalue⟩ := predecessor_div hy (mt mod_eq_zero_iff.2 hne)
    exact ⟨_, hp, hvalue⟩

theorem integer_arithmetic_minValue :
    (-1 : Int32) ≠ 0 ∧ ∃ q m,
      (catalog ⟨⟨0⟩, 0, 0⟩).call "java.lang.Math" "floorDiv" [.int Int32.minValue, .int (-1)] =
        .ok (.int q) ∧
      (catalog ⟨⟨0⟩, 0, 0⟩).call "java.lang.Math" "floorMod" [.int Int32.minValue, .int (-1)] =
        .ok (.int m) ∧
      FloorDivision Int32.minValue (-1) q m := by
  obtain ⟨-, -, hdivides, -⟩ := integer_arithmetic ⟨⟨0⟩, 0, 0⟩ Int32.minValue (-1)
  have hne : (-1 : Int32) ≠ 0 := by decide
  exact ⟨hne, hdivides hne⟩

end ReflectCalc.Builtin
