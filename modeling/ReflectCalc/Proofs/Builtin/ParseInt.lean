import ReflectCalc.Proofs.Builtin.Arithmetic
import ReflectCalc.Proofs.Number.Integer

/-!
# Reading integers

`parseInt` has a base from the caller, who may ask for any integer of 32 bits, and the machine's own
reader crashes on a base without digits. The value of a command is read in base ten, with white
space around it.

`parseInt_numerals` is the main result: both accept the numerals of `Numeral.Spells` and refuse
everything else, without a crash.
-/

namespace ReflectCalc.Builtin

open Numeral (Spells readInt32? readInt32?_eq_some_iff)

variable {t : Text} {radix v : Int32}

theorem unsigned_of_nonneg (h : 0 ≤ v.toInt) : unsigned v = v.toInt.toNat := by
  have hcond : v.toInt = if 2 * unsigned v < 2 ^ 32 then (unsigned v : Int)
      else (unsigned v : Int) - (2 ^ 32 : Nat) := BitVec.toInt_eq_toNat_cond v.toBitVec
  have hlt : unsigned v < 2 ^ 32 := v.toBitVec.isLt
  split at hcond <;> omega

/-- In a base with digits the reader is asked, and does not crash. -/
theorem parseInt_eq (hradix : 2 ≤ radix.toInt ∧ radix.toInt ≤ 36) :
    parseInt t radix = match readInt32? radix.toInt.toNat t with
      | some v => .ok v
      | none => .error (.fault (.badNumeral t)) := by
  have hbase : 2 ≤ radix.toInt.toNat ∧ radix.toInt.toNat ≤ 36 := by omega
  rw [parseInt, if_pos hradix, unsigned_of_nonneg (by omega), readInBase, if_pos hbase]
  cases readInt32? radix.toInt.toNat t <;> rfl

theorem parseInt_eq_ok_iff : parseInt t radix = .ok v ↔
    (2 ≤ radix.toInt ∧ radix.toInt ≤ 36) ∧ Spells radix.toInt.toNat t v.toInt := by
  by_cases hradix : 2 ≤ radix.toInt ∧ radix.toInt ≤ 36
  · rw [parseInt_eq hradix, and_iff_right hradix, ← readInt32?_eq_some_iff]
    cases readInt32? radix.toInt.toNat t <;> simp
  · rw [parseInt, if_neg hradix]
    exact iff_of_false (fun h => nomatch h) fun h => hradix h.1

/-- A text that is not read is a fault. -/
theorem exists_parseInt (t : Text) (radix : Int32) :
    (∃ v, parseInt t radix = .ok v) ∨
      ∃ f, parseInt t radix = .error (.fault f) ∧ f.category = "NumberFormatException" := by
  by_cases hradix : 2 ≤ radix.toInt ∧ radix.toInt ≤ 36
  · rw [parseInt_eq hradix]
    cases readInt32? radix.toInt.toNat t with
    | some v => exact .inl ⟨v, rfl⟩
    | none => exact .inr ⟨_, rfl, rfl⟩
  · rw [parseInt, if_neg hradix]
    exact .inr ⟨_, rfl, rfl⟩

/-- There is one integer more below zero than above. -/
example : parseInt "-80000000" 16 = .ok Int32.minValue ∧
    parseInt "+80000000" 16 = .error (.fault (.badNumeral "+80000000")) := ⟨rfl, rfl⟩

theorem read_int_eq_ok_iff :
    (RawValue.mk .int t).read = .ok (.int v) ↔ Spells 10 t.trim v.toInt := by
  rw [← readInt32?_eq_some_iff]
  simp only [RawValue.read, Argument.read?]
  cases readInt32? 10 t.trim <;> simp

/-- **Integers are read from their numerals**, by the methods in the base that is asked for, and as
values of a command in base ten after trimming. In every other case, and whatever the base, the
method raises a fault of numerals and the value is refused. -/
theorem parseInt_numerals (r : Readings) (t : Text) (radix : Int32) :
    (∀ v, parseInt t radix = .ok v ↔
      (2 ≤ radix.toInt ∧ radix.toInt ≤ 36) ∧ Spells radix.toInt.toNat t v.toInt) ∧
    ((∃ v, parseInt t radix = .ok v) ∨
      ∃ f, parseInt t radix = .error (.fault f) ∧ f.category = "NumberFormatException") ∧
    (catalog r).call "java.lang.Integer" "parseInt" [.text t, .int radix] =
      intResult (parseInt t radix) ∧
    (catalog r).call "java.lang.Integer" "parseInt" [.text t] = intResult (parseInt t 10) ∧
    (catalog r).call "java.lang.Integer" "valueOf" [.text t] = intResult (parseInt t 10) ∧
    (∀ v, (RawValue.mk .int t).read = .ok (.int v) ↔ Spells 10 t.trim v.toInt) ∧
    ((∃ v, (RawValue.mk .int t).read = .ok (.int v)) ∨
      (RawValue.mk .int t).read = .error (.badValue .int t)) := by
  refine ⟨fun v => parseInt_eq_ok_iff, exists_parseInt t radix, rfl, rfl, rfl,
    fun v => read_int_eq_ok_iff, ?_⟩
  simp only [RawValue.read, Argument.read?]
  cases readInt32? 10 t.trim with
  | some v => exact .inl ⟨v, rfl⟩
  | none => exact .inr rfl

end ReflectCalc.Builtin
