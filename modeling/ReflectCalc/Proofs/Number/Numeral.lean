import ReflectCalc.Number.Numeral
import ReflectCalc.Text.Blank

/-!
# Writing a number and reading it again

A numeral is written from its last digit to its first and read from its first to its last. The two
meet in `continueNat?_append`, by which the last digit can be read after all the others.

* `readNat?_inBase` — a numeral reads back, in any base that has characters for its digits;
* `readNat?_ofNat`, `readUnsigned?_ofNat` — a decimal numeral reads back;
* `isDigit_of_mem_ofNat` — it consists of ASCII digits, so it holds no separator and has no white
  space at its ends;
* `not_mem_of_readUnsigned?` — nothing else is read as a numeral, but for a sign in front.
-/

namespace ReflectCalc.Numeral

variable {c : Char} {base n : Nat} {s t : Text}

/-! ### Reading -/

theorem continueNat?_append :
    continueNat? base n (s ++ t) = (continueNat? base n s).bind (continueNat? base · t) := by
  induction s generalizing n with
  | nil => rfl
  | cons c s ih =>
    simp only [List.cons_append, continueNat?]
    cases digit? base c with
    | none => rfl
    | some d => exact ih

theorem readNat?_of_ne_nil (h : t ≠ []) : readNat? base t = continueNat? base 0 t := by
  cases t with
  | nil => exact absurd rfl h
  | cons c t => rfl

/-! ### Numerals in any base -/

/-- The character of a digit has the value of the digit. -/
theorem digitValue?_digitChar : ∀ d < 16, digitValue? d.digitChar = some d := by
  decide

theorem digit?_digitChar {d : Nat} (hbase : base ≤ 16) (hd : d < base) :
    digit? base d.digitChar = some d := by
  rw [digit?, digitValue?_digitChar d (Nat.lt_of_lt_of_le hd hbase)]
  exact if_pos (decide_eq_true hd)

theorem inBase_ne_nil : inBase base n ≠ [] := Nat.toDigits_ne_nil

/-- Either a single digit, or the digits of what is left by a division and one more. -/
theorem inBase_eq (h : 1 < base) :
    inBase base n =
      if n < base then [n.digitChar] else inBase base (n / base) ++ [(n % base).digitChar] :=
  Nat.toDigits_eq_if h

theorem continueNat?_inBase (h : 1 < base) (hbase : base ≤ 16) (n : Nat) :
    continueNat? base 0 (inBase base n) = some n := by
  -- the digits before the last one are those of the quotient
  induction n using Nat.strongRecOn with
  | ind n ih =>
    rw [inBase_eq h]
    split
    · next hlt => simp [continueNat?, digit?_digitChar hbase hlt]
    · next hge =>
      have hless : n / base < n := Nat.div_lt_self (by omega) h
      have hlast := digit?_digitChar hbase (Nat.mod_lt n (by omega))
      rw [continueNat?_append, ih (n / base) hless]
      simp [continueNat?, hlast, Nat.div_add_mod']

theorem readNat?_inBase (h : 1 < base) (hbase : base ≤ 16) (n : Nat) :
    readNat? base (inBase base n) = some n := by
  rw [readNat?_of_ne_nil inBase_ne_nil, continueNat?_inBase h hbase]

/-! ### Decimal digits -/

theorem isDigit_of_mem_ofNat (h : c ∈ ofNat n) : c.isDigit = true :=
  Nat.isDigit_of_mem_toDigits (by decide) (by decide) h

theorem not_mem_ofNat (hc : c.isDigit = false) : c ∉ ofNat n := by
  intro h
  rw [isDigit_of_mem_ofNat h] at hc
  cases hc

theorem ofNat_ne_nil : ofNat n ≠ [] := inBase_ne_nil

theorem isBlank_of_isDigit (h : c.isDigit = true) : Text.isBlank c = false := by
  have hnat : 48 ≤ c.toNat ∧ c.toNat ≤ 57 := by
    simpa [Char.isDigit, UInt32.le_iff_toNat_le] using h
  unfold Text.isBlank Unicode.Ranges.has Text.blankRanges
  simp
  omega

theorem trimmed_ofNat : Text.Trimmed (ofNat n) :=
  ⟨fun _ h => isBlank_of_isDigit (isDigit_of_mem_ofNat (List.mem_of_mem_head? h)),
    fun _ h => isBlank_of_isDigit (isDigit_of_mem_ofNat (List.mem_of_getLast? h))⟩

/-- Either a single digit, or the digits of the tenth part and one more. -/
theorem ofNat_eq :
    ofNat n = if n < 10 then [n.digitChar] else ofNat (n / 10) ++ [(n % 10).digitChar] :=
  inBase_eq (by decide)

/-! ### Numerals -/

theorem readNat?_ofNat (n : Nat) : readNat? 10 (ofNat n) = some n :=
  readNat?_inBase (by decide) (by decide) n

/-- A numeral without a sign reads back if it fits. -/
theorem readUnsigned?_ofNat_eq (bits n : Nat) :
    readUnsigned? bits (ofNat n) = if n < twoTo bits then some n else none := by
  have hsign : ofNat n ≠ '+' :: (ofNat n).tail := by
    intro e
    exact not_mem_ofNat (n := n) (c := '+') (by decide) (e ▸ List.mem_cons_self)
  unfold readUnsigned?
  -- a plus sign would be skipped, but a numeral does not begin with one
  split
  · next t e => exact absurd (by rw [e]; rfl) hsign
  · rw [readNat?_ofNat]
    rfl

/-- A numeral without a sign that fits. -/
theorem readUnsigned?_ofNat {bits : Nat} (h : n < twoTo bits) :
    readUnsigned? bits (ofNat n) = some n := by
  rw [readUnsigned?_ofNat_eq, if_pos h]

/-! ### What a numeral consists of -/

theorem isSome_digit?_of_continueNat? {m : Nat} (h : continueNat? base n t = some m) :
    ∀ c ∈ t, (digit? base c).isSome := by
  induction t generalizing n with
  | nil =>
    intro c hc
    cases hc
  | cons a t ih =>
    obtain ⟨d, ha, hrest⟩ := Option.bind_eq_some_iff.1 h
    rw [List.forall_mem_cons]
    exact ⟨by rw [ha]; rfl, ih hrest⟩

theorem isSome_digit?_of_readNat? {m : Nat} (h : readNat? base t = some m) :
    ∀ c ∈ t, (digit? base c).isSome := by
  cases t with
  | nil => cases h
  | cons c t => exact isSome_digit?_of_continueNat? h

/-- Besides digits there is only the plus sign. -/
theorem not_mem_of_readUnsigned? {bits m : Nat} (h : readUnsigned? bits t = some m)
    (hplus : c ≠ '+') (hdigit : digit? 10 c = none) : c ∉ t := by
  intro hc
  have hnone : ¬ (digit? 10 c).isSome := by simp [hdigit]
  unfold readUnsigned? at h
  split at h
  · next t' =>
    obtain ⟨n, hread, -⟩ := Option.bind_eq_some_iff.1 h
    rcases List.mem_cons.1 hc with e | hc
    · exact hplus e
    · exact hnone (isSome_digit?_of_readNat? hread c hc)
  · obtain ⟨n, hread, -⟩ := Option.bind_eq_some_iff.1 h
    exact hnone (isSome_digit?_of_readNat? hread c hc)

end ReflectCalc.Numeral
