import Mathlib.Data.List.Forall2
import Mathlib.Data.List.Nodup
import Mathlib.Data.Nat.Digits.Defs
import ReflectCalc.Proofs.Number.Numeral

/-!
# Which texts are numerals

The grammar of numerals with a sign, for every base, and that `Numeral.readInt?` reads just these.
The grammar says nothing on how a numeral is read: a digit is found in a table, and the value of a
run of digits is `Nat.ofDigits`.

* `IsDigit`, `Writes` and `Spells` are the grammar;
* `digitValue?_eq_some_iff`, `readNat?_eq_some_iff` and `readInt?_eq_some_iff` are its three parts,
  and `continueNat?_eq_some_iff` is the induction on the digits, from the first to the last;
* `readInt32?_eq_some_iff` — a numeral is read as an integer of 32 bits if what it spells is one.
-/

namespace ReflectCalc.Numeral

variable {base n m d : Nat} {c : Char} {t : Text} {v : Int}

/-- The digits of all bases, each at the place of its value. -/
def digits : Text := "0123456789abcdefghijklmnopqrstuvwxyz"

/-- A character stands for a value. The case of a letter does not matter. -/
def IsDigit (c : Char) (d : Nat) : Prop := digits[d]? = some c.toLower

/-- A text writes a natural number in a base: it consists of digits, of one at least, and each of
them is below the base. -/
def Writes (base : Nat) (t : Text) (n : Nat) : Prop :=
  t ≠ [] ∧ ∃ ds, List.Forall₂ IsDigit t ds ∧ (∀ d ∈ ds, d < base) ∧
    n = Nat.ofDigits base ds.reverse

/-- A text writes an integer in a base: it writes a natural number, or one sign and a natural
number. -/
inductive Spells (base : Nat) : Text → Int → Prop where
  | plain {t : Text} {n : Nat} (h : Writes base t n) : Spells base t n
  | plus {t : Text} {n : Nat} (h : Writes base t n) : Spells base ('+' :: t) n
  | minus {t : Text} {n : Nat} (h : Writes base t n) : Spells base ('-' :: t) (-n)

theorem digitValue?_ascii :
    ∀ n < 128, digitValue? (Char.ofNat n) = digits.idxOf? (Char.ofNat n).toLower := by
  decide +kernel

theorem digitValue?_eq_idxOf? (c : Char) : digitValue? c = digits.idxOf? c.toLower := by
  by_cases hc : c.toNat < 128
  · rw [← Char.ofNat_toNat c]
    exact digitValue?_ascii _ hc
  · have hgreater : ∀ b : Char, b.toNat < 128 → ¬c ≤ b := by
      intro b hb hle
      exact hc (lt_of_le_of_lt (UInt32.le_iff_toNat_le.1 hle) hb)
    have hlower : c.toLower = c := by
      unfold Char.toLower
      rw [dif_neg]
      rintro ⟨-, hle⟩
      exact hgreater 'Z' (by decide) hle
    have hmem : c ∉ digits := by
      intro hmem
      have hascii : digits.all (fun b => b.toNat < 128) = true := rfl
      exact hc (of_decide_eq_true (List.all_eq_true.1 hascii c hmem))
    rw [hlower, List.idxOf?_eq_none_iff.2 hmem]
    unfold digitValue?
    rw [if_neg fun h => hgreater '9' (by decide) h.2, if_neg fun h => hgreater 'z' (by decide) h.2,
      if_neg fun h => hgreater 'Z' (by decide) h.2]

theorem digitValue?_eq_some_iff : digitValue? c = some d ↔ IsDigit c d := by
  have hnodup : digits.Nodup := by decide
  rw [digitValue?_eq_idxOf?, IsDigit, List.idxOf?_eq_some_iff, List.getElem?_eq_some_iff]
  constructor
  · rintro ⟨hd, hc, -⟩
    exact ⟨hd, hc⟩
  · rintro ⟨hd, hc⟩
    refine ⟨hd, hc, fun j hj heq => ?_⟩
    -- no digit stands at two places
    exact absurd (hnodup.getElem_inj_iff.1 (heq.trans hc.symm)) hj.ne

theorem digit?_eq_some_iff : digit? base c = some d ↔ IsDigit c d ∧ d < base := by
  simp [digit?, Option.filter_eq_some_iff, digitValue?_eq_some_iff]

/-- A run of digits is read from the first to the last. -/
theorem continueNat?_eq_some_iff : continueNat? base n t = some m ↔
    ∃ ds, List.Forall₂ IsDigit t ds ∧ (∀ d ∈ ds, d < base) ∧
      m = ds.foldl (fun n d => n * base + d) n := by
  induction t generalizing n with
  | nil =>
    constructor
    · intro h
      exact ⟨[], .nil, List.forall_mem_nil _, (Option.some.inj h).symm⟩
    · rintro ⟨ds, hds, -, rfl⟩
      obtain rfl := List.forall₂_nil_left_iff.1 hds
      rfl
  | cons c t ih =>
    constructor
    · intro h
      obtain ⟨d, hd, hrest⟩ := Option.bind_eq_some_iff.1 h
      obtain ⟨hc, hlt⟩ := digit?_eq_some_iff.1 hd
      obtain ⟨ds, hds, hlts, hm⟩ := ih.1 hrest
      exact ⟨d :: ds, .cons hc hds, List.forall_mem_cons.2 ⟨hlt, hlts⟩, hm⟩
    · rintro ⟨_, hall, hlts, hm⟩
      obtain ⟨d, ds, hc, hds, rfl⟩ := List.forall₂_cons_left_iff.1 hall
      obtain ⟨hlt, hlts⟩ := List.forall_mem_cons.1 hlts
      have hd : digit? base c = some d := digit?_eq_some_iff.2 ⟨hc, hlt⟩
      exact Option.bind_eq_some_iff.2 ⟨d, hd, ih.2 ⟨ds, hds, hlts, hm⟩⟩

theorem foldl_eq_ofDigits (ds : List Nat) :
    ds.foldl (fun n d => n * base + d) 0 = Nat.ofDigits base ds.reverse := by
  rw [Nat.ofDigits_eq_foldr, List.foldr_reverse]
  congr
  funext n d
  rw [mul_comm, add_comm]
  rfl

theorem readNat?_eq_some_iff : readNat? base t = some n ↔ Writes base t n := by
  by_cases ht : t = []
  · subst ht
    exact iff_of_false (fun h => nomatch h) fun h => h.1 rfl
  rw [readNat?_of_ne_nil ht, continueNat?_eq_some_iff]
  simp only [foldl_eq_ofDigits]
  exact (and_iff_right ht).symm

/-- A sign is no digit. -/
theorem Writes.head_ne (h : Writes base (c :: t) n) : c ≠ '-' ∧ c ≠ '+' := by
  obtain ⟨-, ds, hds, -⟩ := h
  obtain ⟨d, ds, hc, -, -⟩ := List.forall₂_cons_left_iff.1 hds
  have hvalue := digitValue?_eq_some_iff.2 hc
  constructor
  · rintro rfl
    cases hvalue
  · rintro rfl
    cases hvalue

theorem map_readNat?_eq_some_iff {sign : Int → Int} :
    Option.map sign (do return (← readNat? base t : Int)) = some v ↔
      ∃ n : Nat, Writes base t n ∧ sign n = v := by
  rw [Option.map_eq_some_iff]
  constructor
  · rintro ⟨_, hread, rfl⟩
    obtain ⟨n, hn, hcast⟩ := Option.bind_eq_some_iff.1 hread
    exact ⟨n, readNat?_eq_some_iff.1 hn, congrArg sign (Option.some.inj hcast)⟩
  · rintro ⟨n, hn, rfl⟩
    exact ⟨n, Option.bind_eq_some_iff.2 ⟨n, readNat?_eq_some_iff.2 hn, rfl⟩, rfl⟩

theorem readInt?_eq_some_iff : readInt? base t = some v ↔ Spells base t v := by
  constructor
  · intro h
    unfold readInt? at h
    split at h <;> obtain ⟨n, hn, rfl⟩ := map_readNat?_eq_some_iff.1 h
    · exact .minus hn
    · exact .plus hn
    · exact .plain hn
  · intro h
    unfold readInt?
    cases h with
    | @plain _ n h =>
      split
      · exact absurd rfl h.head_ne.1
      · exact absurd rfl h.head_ne.2
      · exact map_readNat?_eq_some_iff.2 ⟨n, h, rfl⟩
    | @plus _ n h => exact map_readNat?_eq_some_iff.2 ⟨n, h, rfl⟩
    | @minus _ n h => exact map_readNat?_eq_some_iff.2 ⟨n, h, rfl⟩

/-- **The numerals of 32 bits** are those that spell an integer of 32 bits. -/
theorem readInt32?_eq_some_iff {v : Int32} : readInt32? base t = some v ↔ Spells base t v.toInt := by
  unfold readInt32?
  constructor
  · intro h
    obtain ⟨n, hn, h⟩ := Option.bind_eq_some_iff.1 h
    split at h
    · rename_i hrange
      obtain rfl := Option.some.inj h
      rw [Int32.toInt_ofInt_of_le (by omega) (by omega)]
      exact readInt?_eq_some_iff.1 hn
    · cases h
  · intro h
    have hle := v.le_toInt
    have hlt := v.toInt_lt
    refine Option.bind_eq_some_iff.2 ⟨v.toInt, readInt?_eq_some_iff.2 h, ?_⟩
    rw [if_pos (by omega), Int32.ofInt_toInt]

end ReflectCalc.Numeral
