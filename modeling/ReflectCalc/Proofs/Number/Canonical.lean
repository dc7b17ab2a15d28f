import ReflectCalc.Proofs.Number.Integer

/-!
# The numeral of a number

A number can be written in many ways in one base: a letter has two cases, and there is always room
for another zero in front. `Canonical` singles out one way, without regard to how it is found, and
`canonical_iff` says that this is how `Numeral.inBase` writes.

* `Writes.spells_iff` — a numeral without a sign spells its number and no other integer;
* `Canonical.digits_eq` is the crux: the digits of a canonical numeral are the ones that repeated
  division gives, since the first of them is not zero;
* `count_one_inBase_two` — the ones of a binary numeral are the bits that are set.
-/

namespace ReflectCalc.Numeral

variable {base n m d k : Nat} {c : Char} {t t' : Text} {ds : List Nat} {v : Int}

/-! ### What a numeral spells -/

theorem Writes.unique (h : Writes base t n) (h' : Writes base t m) : n = m := by
  have hread : some n = some m :=
    (readNat?_eq_some_iff.2 h).symm.trans (readNat?_eq_some_iff.2 h')
  exact Option.some.inj hread

/-- Without a sign a numeral spells the number that it writes, and nothing else. -/
theorem Writes.spells_iff (h : Writes base t n) : Spells base t v ↔ v = n := by
  constructor
  · intro hspells
    cases hspells with
    | plain h' => rw [h'.unique h]
    -- a numeral that is written does not begin with a sign
    | plus _ => exact absurd rfl h.head_ne.2
    | minus _ => exact absurd rfl h.head_ne.1
  · rintro rfl
    exact .plain h

theorem writes_inBase (h : 1 < base) (hbase : base ≤ 16) (n : Nat) :
    Writes base (inBase base n) n :=
  readNat?_eq_some_iff.1 (readNat?_inBase h hbase n)

/-- A written integer spells that integer, in base ten. -/
theorem spells_ofInt (v : Int) : Spells 10 (ofInt v) v := by
  have hwrites : ∀ n, Writes 10 (ofNat n) n := writes_inBase (by decide) (by decide)
  cases v with
  | ofNat n => exact .plain (hwrites n)
  | negSucc n => exact .minus (hwrites (n + 1))

/-! ### Canonical numerals -/

/-- **The numeral of a number in a base.** -/
structure Canonical (base : Nat) (t : Text) (n : Nat) : Prop where
  /-- It writes the number. -/
  writes : Writes base t n
  /-- Its letters are in lower case. -/
  lower : ∀ c ∈ t, c.toLower = c
  /-- It has no zero in front, unless the zero is all of it. -/
  zero : ∀ rest, t = '0' :: rest → rest = []

/-- Zero has one character. -/
theorem IsDigit.eq_zero (h : IsDigit c 0) (hlower : c.toLower = c) : c = '0' := by
  have hzero : some '0' = some c.toLower := h
  rw [hlower] at hzero
  exact (Option.some.inj hzero).symm

/-- **The digits of a canonical numeral are those that repeated division gives.** -/
theorem Canonical.digits_eq (h : Canonical base t n) (hbase : 1 < base)
    (hds : List.Forall₂ IsDigit t ds) (hlts : ∀ d ∈ ds, d < base)
    (hn : n = Nat.ofDigits base ds.reverse) :
    ds = if n = 0 then [0] else (base.digits n).reverse := by
  obtain ⟨c, t, rfl⟩ := List.exists_cons_of_ne_nil h.writes.1
  obtain ⟨d, ds, hc, htail, rfl⟩ := List.forall₂_cons_left_iff.1 hds
  have hlower : c.toLower = c := h.lower c List.mem_cons_self
  by_cases hd : d = 0
  · -- the numeral begins with a zero, which is then all of it
    subst hd
    obtain rfl : c = '0' := hc.eq_zero hlower
    obtain rfl := h.zero t rfl
    obtain rfl := List.forall₂_nil_left_iff.1 htail
    have hzero : n = 0 := by simpa using hn
    rw [if_pos hzero]
  · have hlast : ∀ hne : (d :: ds).reverse ≠ [], (d :: ds).reverse.getLast hne ≠ 0 := by
      intro hne
      rw [List.getLast_reverse]
      exact hd
    have hlts' : ∀ d' ∈ (d :: ds).reverse, d' < base := by
      intro d' hd'
      exact hlts d' (List.mem_reverse.1 hd')
    have hdigits : base.digits n = (d :: ds).reverse := by
      rw [hn]
      exact Nat.digits_ofDigits base hbase _ hlts' hlast
    have hpos : n ≠ 0 := by
      rintro rfl
      simp at hdigits
    rw [if_neg hpos, hdigits, List.reverse_reverse]

/-- In lower case the digits tell the characters. -/
theorem map_some_eq (hds : List.Forall₂ IsDigit t ds) (hlower : ∀ c ∈ t, c.toLower = c) :
    t.map some = ds.map (digits[·]?) := by
  induction hds with
  | nil => rfl
  | @cons c d t ds hc _ ih =>
    obtain ⟨hfirst, hrest⟩ := List.forall_mem_cons.1 hlower
    have hchar : digits[d]? = some c := hfirst ▸ hc
    rw [List.map_cons, List.map_cons, ih hrest, hchar]

/-- A number has one canonical numeral in a base. -/
theorem Canonical.unique (h : Canonical base t n) (h' : Canonical base t' n) (hbase : 1 < base) :
    t = t' := by
  obtain ⟨-, ds, hds, hlts, hn⟩ := h.writes
  obtain ⟨-, ds', hds', hlts', hn'⟩ := h'.writes
  have hsame : ds = ds' :=
    (h.digits_eq hbase hds hlts hn).trans (h'.digits_eq hbase hds' hlts' hn').symm
  have hmap : t.map some = t'.map some := by
    rw [map_some_eq hds h.lower, map_some_eq hds' h'.lower, hsame]
  exact List.map_injective_iff.2 (Option.some_injective Char) hmap

/-! ### What is written -/

theorem exists_of_mem_inBase (h : 1 < base) (hc : c ∈ inBase base n) :
    ∃ d < base, c = d.digitChar := by
  induction n using Nat.strongRecOn with
  | ind n ih =>
    rw [inBase_eq h] at hc
    split at hc
    · next hlt => exact ⟨n, hlt, List.mem_singleton.1 hc⟩
    · next hge =>
      rcases List.mem_append.1 hc with hfront | hlast
      · exact ih (n / base) (Nat.div_lt_self (by omega) h) hfront
      · exact ⟨n % base, Nat.mod_lt n (by omega), List.mem_singleton.1 hlast⟩

/-- Only the numeral of zero begins with a zero. -/
theorem head?_inBase_ne_zero (h : 1 < base) (hbase : base ≤ 16) (hn : n ≠ 0) :
    (inBase base n).head? ≠ some '0' := by
  have hdigit : ∀ d < 16, d ≠ 0 → d.digitChar ≠ '0' := by decide
  induction n using Nat.strongRecOn with
  | ind n ih =>
    rw [inBase_eq h]
    split
    · next hlt =>
      intro hzero
      exact hdigit n (hlt.trans_le hbase) hn (Option.some.inj hzero)
    · next hge =>
      -- the front is that of the quotient, which is not zero either
      have hquotient : n / base ≠ 0 := (Nat.div_pos (by omega) (by omega)).ne'
      rw [List.head?_append_of_ne_nil _ inBase_ne_nil]
      exact ih (n / base) (Nat.div_lt_self (by omega) h) hquotient

theorem canonical_inBase (h : 1 < base) (hbase : base ≤ 16) (n : Nat) :
    Canonical base (inBase base n) n := by
  refine ⟨writes_inBase h hbase n, ?_, ?_⟩
  · have hlower : ∀ d < 16, d.digitChar.toLower = d.digitChar := by decide
    intro c hc
    obtain ⟨d, hd, rfl⟩ := exists_of_mem_inBase h hc
    exact hlower d (hd.trans_le hbase)
  · intro rest hrest
    by_cases hn : n = 0
    · subst hn
      rw [inBase_eq h, if_pos (by omega)] at hrest
      exact (List.cons.inj hrest).2.symm
    · refine absurd ?_ (head?_inBase_ne_zero h hbase hn)
      rw [hrest, List.head?_cons]

/-- **Numbers are written canonically**, and the canonical numeral is the one that is written. -/
theorem canonical_iff (h : 1 < base) (hbase : base ≤ 16) :
    Canonical base t n ↔ t = inBase base n := by
  constructor
  · intro hcanonical
    exact hcanonical.unique (canonical_inBase h hbase n) h
  · rintro rfl
    exact canonical_inBase h hbase n

/-! ### The ones of a binary numeral -/

/-- The last digit of a binary numeral is the bit of the remainder. -/
theorem count_one_inBase_two_eq (n : Nat) :
    (inBase 2 n).count '1' = (inBase 2 (n / 2)).count '1' + if n.testBit 0 then 1 else 0 := by
  by_cases hn : n < 2
  · obtain rfl | rfl : n = 0 ∨ n = 1 := by omega
    · decide
    · decide
  · have hlast : [(n % 2).digitChar].count '1' = if n.testBit 0 then 1 else 0 := by
      rw [Nat.testBit_zero]
      rcases Nat.mod_two_eq_zero_or_one n with hmod | hmod <;> rw [hmod] <;> decide
    rw [inBase_eq (by decide), if_neg hn, List.count_append, hlast]

/-- **A binary numeral has a one for every bit that is set.** -/
theorem count_one_inBase_two (hn : n < 2 ^ k) :
    (inBase 2 n).count '1' = (List.range k).countP n.testBit := by
  induction k generalizing n with
  | zero =>
    obtain rfl : n = 0 := by omega
    decide
  | succ k ih =>
    have hhalf : n / 2 < 2 ^ k := by omega
    calc (inBase 2 n).count '1'
        = (List.range k).countP (n / 2).testBit + if n.testBit 0 then 1 else 0 := by
          rw [count_one_inBase_two_eq, ih hhalf]
      _ = (List.range k).countP (n.testBit ∘ Nat.succ) + if n.testBit 0 then 1 else 0 := by
          rw [show n.testBit ∘ Nat.succ = (n / 2).testBit from funext fun i => Nat.testBit_succ n i]
      _ = (List.range (k + 1)).countP n.testBit := by
          rw [List.range_succ_eq_map, List.countP_cons, List.countP_map]

end ReflectCalc.Numeral
