import Mathlib.Data.List.TakeWhile
import ReflectCalc.Number.Read
import ReflectCalc.Proofs.Number.Layout

/-!
# The grammar of decimals

Which texts are decimals, without a sign (`Decimal.Form`) and with one in front (`Decimal.Sign`).

* `Decimal.isSome_read?_iff` — the unsigned decimals are just the texts that are read;
* `Decimal.readSigned?_append` and `Decimal.exists_of_isSome_readSigned?` — a sign in front is read
  beside the decimal, and there is at most one;
* `Decimal.looksDecimal_of_form` — a decimal has a digit and nothing but the characters of one.
-/

namespace ReflectCalc.Decimal

variable {ds t sign rest : Text} {negative : Bool}

/-- A sign or none, and whether it is a minus. -/
inductive Sign : Text → Bool → Prop where
  | none : Sign [] false
  | plus : Sign ['+'] false
  | minus : Sign ['-'] true

/-- Digits with at most one point, and at least one digit. -/
inductive Mantissa : Text → Prop where
  | whole {ds : Text} (hds : Digits ds) (hne : ds ≠ []) : Mantissa ds
  | point {whole fraction : Text} (hwhole : Digits whole) (hfraction : Digits fraction)
      (hne : ¬ (whole = [] ∧ fraction = [])) : Mantissa (whole ++ '.' :: fraction)

/-- What may stand behind the digits. -/
inductive Exponent : Text → Prop where
  | none : Exponent []
  | some {c : Char} {sign ds : Text} {negative : Bool} (hc : c = 'e' ∨ c = 'E')
      (hsign : Sign sign negative) (hds : Digits ds) (hne : ds ≠ []) :
      Exponent (c :: (sign ++ ds))

/-- An unsigned decimal. -/
def Form (t : Text) : Prop :=
  ∃ mantissa exponent, Mantissa mantissa ∧ Exponent exponent ∧ t = mantissa ++ exponent

theorem not_isSign_of_isDigit {c : Char} (h : isDigit c = true) : c ≠ '-' ∧ c ≠ '+' := by
  constructor
  · rintro rfl
    cases h
  · rintro rfl
    cases h

/-- A run of digits is not mistaken for one with a sign. -/
theorem readExponent?_digits (hds : Digits ds) (hne : ds ≠ []) :
    readExponent? ds = some (exponentValue ds : Int) := by
  obtain ⟨c, ds, rfl⟩ := List.exists_cons_of_ne_nil hne
  obtain ⟨hminus, hplus⟩ := not_isSign_of_isDigit (hds c List.mem_cons_self)
  rw [readExponent?]
  · exact if_pos ⟨hne, List.all_eq_true.2 hds⟩
  · exact fun _ h => hminus (List.cons.inj h).1
  · exact fun _ h => hplus (List.cons.inj h).1

theorem isSome_readExponent?_iff : (readExponent? t).isSome ↔
    ∃ sign negative ds, Sign sign negative ∧ Digits ds ∧ ds ≠ [] ∧ t = sign ++ ds := by
  have hdigits (ds : Text) (e : Int) :
      (if ds ≠ [] ∧ ds.all isDigit then some e else none).isSome ↔ Digits ds ∧ ds ≠ [] := by
    rw [Option.isSome_ite, List.all_eq_true, and_comm]
    rfl
  constructor
  · intro h
    unfold readExponent? at h
    split at h
    · next ds =>
      obtain ⟨hds, hne⟩ := (hdigits ds _).1 h
      exact ⟨_, _, ds, .minus, hds, hne, rfl⟩
    · next ds =>
      obtain ⟨hds, hne⟩ := (hdigits ds _).1 h
      exact ⟨_, _, ds, .plus, hds, hne, rfl⟩
    · obtain ⟨hds, hne⟩ := (hdigits t _).1 h
      exact ⟨_, _, t, .none, hds, hne, rfl⟩
  · rintro ⟨sign, negative, ds, hsign, hds, hne, rfl⟩
    cases hsign with
    | minus => exact (hdigits ds _).2 ⟨hds, hne⟩
    | plus => exact (hdigits ds _).2 ⟨hds, hne⟩
    | none =>
      rw [List.nil_append, readExponent?_digits hds hne]
      rfl

theorem Exponent.head (h : Exponent t) : ∀ c ∈ t.head?, isDigit c = false ∧ c ≠ '.' := by
  intro c hc
  cases h with
  | none => cases hc
  | some hletter hsign hds hne =>
    cases hc
    rcases hletter with rfl | rfl <;> decide

/-- Behind the digits nothing is read but an exponent. -/
theorem isSome_readTail?_iff {digits scale : Nat} :
    (readTail? digits scale t).isSome ↔ Exponent t := by
  cases t with
  | nil => exact iff_of_true rfl .none
  | cons c t =>
    rw [readTail?]
    split
    · next hc =>
      rw [Option.isSome_map, isSome_readExponent?_iff]
      constructor
      · rintro ⟨sign, negative, ds, hsign, hds, hne, rfl⟩
        exact .some hc hsign hds hne
      · intro h
        cases h with
        | some _ hsign hds hne => exact ⟨_, _, _, hsign, hds, hne, rfl⟩
    · next hc =>
      refine iff_of_false (fun h => nomatch h) fun h => ?_
      cases h with
      | some hc' => exact hc hc'

theorem readFraction_of_head (h : t.head? ≠ some '.') : readFraction t = ([], t) := by
  unfold readFraction
  split
  · exact absurd rfl h
  · rfl

/-- The scans stop where the digits do. -/
theorem read?_point {whole fraction exponent : Text} (hwhole : Digits whole)
    (hfraction : Digits fraction) (hne : ¬ (whole = [] ∧ fraction = []))
    (hexponent : Exponent exponent) :
    read? (whole ++ '.' :: (fraction ++ exponent)) =
      readTail? (digitsValue (whole ++ fraction)) fraction.length exponent := by
  have hpoint : ∀ c ∈ ('.' :: (fraction ++ exponent)).head?, isDigit c = false := by
    rintro c ⟨⟩
    rfl
  have hletter : ∀ c ∈ exponent.head?, isDigit c = false := fun c hc => (hexponent.head c hc).1
  unfold read?
  rw [takeWhile_isDigit hwhole hpoint, dropWhile_isDigit hwhole hpoint]
  simp only [readFraction]
  rw [takeWhile_isDigit hfraction hletter, dropWhile_isDigit hfraction hletter, if_neg hne]

/-- **Just the unsigned decimals are read.** -/
theorem isSome_read?_iff : (read? t).isSome ↔ Form t := by
  constructor
  · -- what the scans took off the front is the mantissa, and the rest was read as the exponent
    intro h
    have hwhole : Digits (t.takeWhile isDigit) := fun c hc => List.mem_takeWhile_imp hc
    have ht : t.takeWhile isDigit ++ t.dropWhile isDigit = t := List.takeWhile_append_dropWhile
    unfold read? at h
    rw [← ht]
    generalize t.takeWhile isDigit = whole at h hwhole ⊢
    generalize t.dropWhile isDigit = rest at h ⊢
    simp only at h
    split at h
    · cases h
    · next hne =>
      rw [isSome_readTail?_iff] at h
      by_cases hpoint : rest.head? = some '.'
      · obtain ⟨fraction, rfl⟩ := List.head?_eq_some_iff.1 hpoint
        refine ⟨whole ++ '.' :: fraction.takeWhile isDigit, fraction.dropWhile isDigit,
          .point hwhole (fun c hc => List.mem_takeWhile_imp hc) hne, h, ?_⟩
        rw [List.append_assoc, List.cons_append, List.takeWhile_append_dropWhile]
      · rw [readFraction_of_head hpoint] at h hne
        exact ⟨whole, rest, .whole hwhole fun hnil => hne ⟨hnil, rfl⟩, h, rfl⟩
  · -- the scans stop where the parts end, since an exponent begins with no digit and no point
    rintro ⟨mantissa, exponent, hmantissa, hexponent, rfl⟩
    cases hmantissa with
    | whole hds hne =>
      have hdigit : ∀ c ∈ exponent.head?, isDigit c = false := fun c hc => (hexponent.head c hc).1
      have hpoint : exponent.head? ≠ some '.' := fun h => (hexponent.head _ h).2 rfl
      unfold read?
      rw [takeWhile_isDigit hds hdigit, dropWhile_isDigit hds hdigit, readFraction_of_head hpoint]
      simp only
      rw [if_neg fun h => hne h.1, isSome_readTail?_iff]
      exact hexponent
    | point hwhole hfraction hne =>
      rw [List.append_assoc, List.cons_append, read?_point hwhole hfraction hne hexponent,
        isSome_readTail?_iff]
      exact hexponent

/-! ### Characters of a decimal -/

open Double (isDecimalChar looksDecimal)

theorem isDecimalChar_of_isDigit {c : Char} (h : isDigit c = true) : isDecimalChar c = true := by
  simp [isDecimalChar, h]

theorem Sign.isDecimalChar (h : Sign sign negative) : ∀ c ∈ sign, isDecimalChar c = true := by
  intro c hc
  cases h with
  | none => cases hc
  | plus => exact List.mem_singleton.1 hc ▸ rfl
  | minus => exact List.mem_singleton.1 hc ▸ rfl

theorem Mantissa.isDecimalChar (h : Mantissa t) : ∀ c ∈ t, isDecimalChar c = true := by
  intro c hc
  cases h with
  | whole hds => exact isDecimalChar_of_isDigit (hds c hc)
  | point hwhole hfraction =>
    rcases List.mem_append.1 hc with hc | hc
    · exact isDecimalChar_of_isDigit (hwhole c hc)
    · rcases List.mem_cons.1 hc with rfl | hc
      · rfl
      · exact isDecimalChar_of_isDigit (hfraction c hc)

theorem Mantissa.exists_isDigit (h : Mantissa t) : ∃ c ∈ t, isDigit c = true := by
  cases h with
  | whole hds hne =>
    obtain ⟨c, ds, rfl⟩ := List.exists_cons_of_ne_nil hne
    exact ⟨c, List.mem_cons_self, hds c List.mem_cons_self⟩
  | @point whole fraction hwhole hfraction hne =>
    cases whole with
    | cons c whole => exact ⟨c, by simp, hwhole c List.mem_cons_self⟩
    | nil =>
      obtain ⟨c, ds, rfl⟩ := List.exists_cons_of_ne_nil fun h => hne ⟨rfl, h⟩
      exact ⟨c, by simp, hfraction c List.mem_cons_self⟩

theorem Exponent.isDecimalChar (h : Exponent t) : ∀ c ∈ t, isDecimalChar c = true := by
  intro c hc
  cases h with
  | none => cases hc
  | some hletter hsign hds =>
    rcases List.mem_cons.1 hc with rfl | hc
    · rcases hletter with rfl | rfl <;> rfl
    · rcases List.mem_append.1 hc with hc | hc
      · exact hsign.isDecimalChar c hc
      · exact isDecimalChar_of_isDigit (hds c hc)

theorem Form.isDecimalChar (h : Form t) : ∀ c ∈ t, isDecimalChar c = true := by
  obtain ⟨mantissa, exponent, hmantissa, hexponent, rfl⟩ := h
  intro c hc
  rcases List.mem_append.1 hc with hc | hc
  · exact hmantissa.isDecimalChar c hc
  · exact hexponent.isDecimalChar c hc

/-- A decimal with a sign or without passes for one. -/
theorem looksDecimal_of_form (hsign : Sign sign negative) (h : Form t) :
    looksDecimal (sign ++ t) = true := by
  have hdigit : ∃ c ∈ sign ++ t, isDigit c = true := by
    obtain ⟨mantissa, exponent, hmantissa, -, rfl⟩ := h
    obtain ⟨c, hc, hdigit⟩ := hmantissa.exists_isDigit
    exact ⟨c, by simp [hc], hdigit⟩
  have hall : ∀ c ∈ sign ++ t, isDecimalChar c = true := by
    intro c hc
    rcases List.mem_append.1 hc with hc | hc
    · exact hsign.isDecimalChar c hc
    · exact h.isDecimalChar c hc
  unfold looksDecimal
  rw [List.any_eq_true.2 hdigit, List.all_eq_true.2 hall]
  rfl

/-- A decimal begins with a digit or a point, and so with no sign. -/
theorem Form.head (h : Form t) : ∃ c t', t = c :: t' ∧ c ≠ '-' ∧ c ≠ '+' := by
  obtain ⟨mantissa, exponent, hmantissa, -, rfl⟩ := h
  cases hmantissa with
  | whole hds hne =>
    obtain ⟨c, ds, rfl⟩ := List.exists_cons_of_ne_nil hne
    exact ⟨c, _, rfl, not_isSign_of_isDigit (hds c List.mem_cons_self)⟩
  | @point whole fraction hwhole =>
    cases whole with
    | nil => exact ⟨'.', _, rfl, by decide⟩
    | cons c whole => exact ⟨c, _, rfl, not_isSign_of_isDigit (hwhole c List.mem_cons_self)⟩

/-! ### Signed decimals -/

theorem readSigned?_append (hsign : Sign sign negative) (h : Form t) :
    readSigned? (sign ++ t) = (read? t).map fun d => (negative, d) := by
  cases hsign with
  | plus => rfl
  | minus => rfl
  | none =>
    obtain ⟨c, t, rfl, hne⟩ := h.head
    rw [List.nil_append, readSigned?]
    · exact fun _ h => hne.1 (List.cons.inj h).1
    · exact fun _ h => hne.2 (List.cons.inj h).1

theorem exists_of_isSome_readSigned? (h : (readSigned? t).isSome) :
    ∃ sign negative t', Sign sign negative ∧ Form t' ∧ t = sign ++ t' := by
  unfold readSigned? at h
  split at h
  · next t' => exact ⟨_, _, t', .minus, isSome_read?_iff.1 (Option.isSome_map .. ▸ h), rfl⟩
  · next t' => exact ⟨_, _, t', .plus, isSome_read?_iff.1 (Option.isSome_map .. ▸ h), rfl⟩
  · exact ⟨_, _, t, .none, isSome_read?_iff.1 (Option.isSome_map .. ▸ h), rfl⟩

end ReflectCalc.Decimal
