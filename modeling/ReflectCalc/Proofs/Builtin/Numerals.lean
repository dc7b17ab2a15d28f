import ReflectCalc.Proofs.Builtin.ParseInt
import ReflectCalc.Proofs.Number.Canonical

/-!
# Writing integers

An integer of 32 bits is written with a sign in base ten, and in the other bases as the number that
its bits stand for, which has no sign. It is read as an integer with a sign in every base, so only
half of what is written without one is read again.

* `inOtherBases` lists the methods that write the bits, with their bases;
* `unsigned_eq` — the number behind the bits is the integer modulo `2 ^ 32`, so it is the integer
  itself or too large for one (`unsigned_of_nonneg`, `lt_unsigned_of_neg`);
* `numerals_read_back` is the main result, on the methods as they are found in the catalog.
-/

namespace ReflectCalc.Builtin

open Numeral (Canonical Writes canonical_iff writes_inBase spells_ofInt count_one_inBase_two)

variable {base : Nat} {t : Text} {n radix : Int32}

/-- The methods that write the bits of an integer, with the base of each. -/
def inOtherBases : List (Text × Nat) :=
  [("toBinaryString", 2), ("toOctalString", 8), ("toHexString", 16)]

/-! ### The number behind the bits -/

theorem unsigned_eq (n : Int32) : (unsigned n : Int) = n.toInt % 2 ^ 32 := by
  have hcond : n.toInt = if 2 * unsigned n < 2 ^ 32 then (unsigned n : Int)
      else (unsigned n : Int) - (2 ^ 32 : Nat) := BitVec.toInt_eq_toNat_cond n.toBitVec
  have hlt : unsigned n < 2 ^ 32 := n.toBitVec.isLt
  split at hcond <;> omega

/-- The bits of a negative integer stand for a number that no integer of 32 bits has. -/
theorem lt_unsigned_of_neg (h : n.toInt < 0) : (2 ^ 31 : Int) ≤ unsigned n := by
  have hle : -2 ^ 31 ≤ n.toInt := n.le_toInt
  rw [unsigned_eq]
  omega

/-! ### Reading again -/

/-- **What is written without a sign is read again just if the integer is not negative.** -/
theorem parseInt_of_writes_unsigned (hwrites : Writes radix.toInt.toNat t (unsigned n))
    (hradix : 2 ≤ radix.toInt ∧ radix.toInt ≤ 36) :
    parseInt t radix = if 0 ≤ n.toInt then .ok n else .error (.fault (.badNumeral t)) := by
  split
  · next hnonneg =>
    have hvalue : n.toInt = unsigned n := by
      rw [unsigned_of_nonneg hnonneg, Int.toNat_of_nonneg hnonneg]
    exact parseInt_eq_ok_iff.2 ⟨hradix, hwrites.spells_iff.2 hvalue⟩
  · next hneg =>
    rw [parseInt_eq hradix]
    cases hread : Numeral.readInt32? radix.toInt.toNat t with
    | none => rfl
    | some v =>
      -- what is read would be the number behind the bits
      have hvalue : v.toInt = unsigned n :=
        hwrites.spells_iff.1 (Numeral.readInt32?_eq_some_iff.1 hread)
      have hlarge := lt_unsigned_of_neg (not_le.1 hneg)
      have hlt := v.toInt_lt
      omega

theorem parseInt_ofInt (n : Int32) : parseInt (Numeral.ofInt n.toInt) 10 = .ok n :=
  parseInt_eq_ok_iff.2 ⟨by decide, spells_ofInt n.toInt⟩

/-! ### Counting bits -/

theorem toInt_bitCount (n : Int32) :
    (bitCount n).toInt = (Numeral.inBase 2 (unsigned n)).count '1' := by
  have hlt : unsigned n < 2 ^ 32 := n.toBitVec.isLt
  have hcount : (Numeral.inBase 2 (unsigned n)).count '1' =
      (List.range 32).countP fun i => n.toBitVec.getLsbD i := count_one_inBase_two hlt
  have hle : (List.range 32).countP (fun i => n.toBitVec.getLsbD i) ≤ 32 := by
    simpa using List.countP_le_length (p := fun i => n.toBitVec.getLsbD i) (l := List.range 32)
  rw [hcount]
  exact Int32.toInt_ofNat_of_lt (by omega)

/-! ### Main result -/

/-- **Integers are written canonically, and read back if they are written with their sign.** For
every integer of 32 bits:

* the methods for the bases two, eight and sixteen give the canonical numeral of the integer modulo
  `2 ^ 32`, and no other text is one; read in the same base this gives the integer if it is not
  negative, and a fault of numerals that shows the text otherwise;
* the decimal text gives the integer again, whether the base is named or not;
* the count of bits is the number of ones in the binary numeral. -/
theorem numerals_read_back (r : Readings) (n : Int32) :
    (∀ method ∈ inOtherBases, ∃ t,
      (catalog r).call "java.lang.Integer" method.1 [.int n] = .ok (.text t) ∧
      (∀ t', Canonical method.2 t' (n.toInt % 2 ^ 32).toNat ↔ t' = t) ∧
      (0 ≤ n.toInt →
        (catalog r).call "java.lang.Integer" "parseInt" [.text t, .int (Int32.ofNat method.2)] =
          .ok (.int n)) ∧
      (n.toInt < 0 → ∃ f,
        (catalog r).call "java.lang.Integer" "parseInt" [.text t, .int (Int32.ofNat method.2)] =
          .error (.fault f) ∧
        f.category = "NumberFormatException" ∧ f.message = "For input string: \"" ++ t ++ "\"")) ∧
    (∃ t, (catalog r).call "java.lang.Integer" "toString" [.int n] = .ok (.text t) ∧
      (catalog r).call "java.lang.Integer" "parseInt" [.text t, .int 10] = .ok (.int n) ∧
      (catalog r).call "java.lang.Integer" "parseInt" [.text t] = .ok (.int n)) ∧
    ∃ t k, (catalog r).call "java.lang.Integer" "toBinaryString" [.int n] = .ok (.text t) ∧
      (catalog r).call "java.lang.Integer" "bitCount" [.int n] = .ok (.int k) ∧
      k.toInt = t.count '1' := by
  -- each method is found under its name and the kinds of its arguments
  have hwritten : ∀ method ∈ inOtherBases,
      (catalog r).call "java.lang.Integer" method.1 [.int n] =
        .ok (.text (Numeral.inBase method.2 (unsigned n))) := by
    simp only [inOtherBases, List.forall_mem_cons]
    exact ⟨rfl, rfl, rfl, List.forall_mem_nil _⟩
  have hread : ∀ t radix, (catalog r).call "java.lang.Integer" "parseInt" [.text t, .int radix] =
      intResult (parseInt t radix) := by
    intro t radix
    rfl
  have hbases : ∀ method ∈ inOtherBases,
      1 < method.2 ∧ method.2 ≤ 16 ∧ (Int32.ofNat method.2).toInt = method.2 := by decide
  refine ⟨?_, ⟨_, rfl, ?_, ?_⟩, _, _, rfl, rfl, toInt_bitCount n⟩
  · intro method hmethod
    obtain ⟨hone, hbase, hradix⟩ := hbases method hmethod
    have hvalue : (n.toInt % 2 ^ 32).toNat = unsigned n := by
      rw [← unsigned_eq, Int.toNat_natCast]
    have hwrites : Writes (Int32.ofNat method.2).toInt.toNat
        (Numeral.inBase method.2 (unsigned n)) (unsigned n) := by
      rw [hradix, Int.toNat_natCast]
      exact writes_inBase hone hbase (unsigned n)
    have hparse := parseInt_of_writes_unsigned hwrites (by omega)
    refine ⟨_, hwritten method hmethod, ?_, ?_, ?_⟩
    · intro t'
      rw [hvalue]
      exact canonical_iff hone hbase
    · intro hnonneg
      rw [hread, hparse, if_pos hnonneg]
      rfl
    · intro hneg
      rw [hread, hparse, if_neg (not_le.2 hneg)]
      exact ⟨_, rfl, rfl, rfl⟩
  · rw [hread, parseInt_ofInt]
    rfl
  · show intResult (parseInt (Numeral.ofInt n.toInt) 10) = .ok (.int n)
    rw [parseInt_ofInt]
    rfl

/-- The least integer has one bit, in front, and its numerals are too large to be read again. -/
theorem numerals_read_back_minValue :
    let c := catalog ⟨⟨0⟩, 0, 0⟩
    (("toHexString" : Text), 16) ∈ inOtherBases ∧ Int32.minValue.toInt < 0 ∧
      c.call "java.lang.Integer" "toHexString" [.int Int32.minValue] = .ok (.text "80000000") ∧
      (∀ t', Canonical 16 t' 2147483648 ↔ t' = "80000000") ∧
      ∃ f, c.call "java.lang.Integer" "parseInt" [.text "80000000", .int 16] = .error (.fault f) ∧
        f.category = "NumberFormatException" := by
  intro c
  have hmem : (("toHexString" : Text), 16) ∈ inOtherBases := by decide
  have hneg : Int32.minValue.toInt < 0 := by decide
  obtain ⟨hall, -⟩ := numerals_read_back ⟨⟨0⟩, 0, 0⟩ Int32.minValue
  obtain ⟨t, hcall, hcanonical, -, hfault⟩ := hall _ hmem
  have htext : c.call "java.lang.Integer" "toHexString" [.int Int32.minValue] =
      .ok (.text "80000000") := rfl
  obtain rfl : t = "80000000" := by
    have hsame := hcall.symm.trans htext
    exact Value.text.inj (Except.ok.inj hsame)
  obtain ⟨f, hf, hcategory, -⟩ := hfault hneg
  exact ⟨hmem, hneg, htext, hcanonical, f, hf, hcategory⟩

end ReflectCalc.Builtin
