import ReflectCalc.Json.Read
import ReflectCalc.Proofs.Number.Layout

/-!
# Reading the numbers of a document

A number that a document writes is read up to its last character, whatever follows that cannot be a
part of it.

* `NumberParts.Reads` says this of a text and the parts that are read, and
  `NumberParts.reads_written` is the one place where the scan is followed;
* `NumberParts.reads_ofInt` and `NumberParts.toJson?_ofInt` — an integer of 64 bits reads back;
* `NumberParts.exists_reads_toJson` — a finite double is read as a number with a point or an
  exponent, and `NumberParts.Denotes` says which one.
-/

namespace ReflectCalc.Json

open Decimal (Digits Whole digits_nil digits_zeros digits_ofNat whole_zero whole_ofNat
  digitsValue_ofNat takeWhile_isDigit dropWhile_isDigit)

variable {ds whole fraction expText rest t : Text} {e : Int} {n : Nat} {d : Double}

/-- Nothing that follows could be a part of the number. -/
def NumberEnds (rest : Text) : Prop :=
  ∀ c ∈ rest.head?, Decimal.isDigit c = false ∧ c ≠ '.' ∧ c ≠ 'e' ∧ c ≠ 'E'

theorem numberEnds_nil : NumberEnds [] := by
  intro c h
  cases h

theorem numberEnds_cons {c : Char}
    (h : Decimal.isDigit c = false ∧ c ≠ '.' ∧ c ≠ 'e' ∧ c ≠ 'E') (t : Text) :
    NumberEnds (c :: t) := by
  intro c' h'
  cases h'
  exact h

namespace NumberParts

/-! ### Runs of digits -/

theorem readWhole?_append (h : Whole whole)
    (hrest : ∀ c ∈ rest.head?, Decimal.isDigit c = false) :
    readWhole? (whole ++ rest) = some (whole, rest) := by
  unfold readWhole?
  rw [takeWhile_isDigit h.digits hrest, dropWhile_isDigit h.digits hrest]
  -- neither no digit nor a zero in front of others
  split
  · exact absurd rfl h.ne_nil
  · cases h.zero rfl
  · rfl

theorem readDigits?_append (hds : Digits ds) (hne : ds ≠ [])
    (hrest : ∀ c ∈ rest.head?, Decimal.isDigit c = false) :
    readDigits? (ds ++ rest) = some (Decimal.digitsValue ds, rest) := by
  unfold readDigits?
  rw [takeWhile_isDigit hds hrest, dropWhile_isDigit hds hrest]
  cases ds with
  | nil => exact absurd rfl hne
  | cons c ds => rfl

/-! ### The parts -/

/-- The fraction with its point, if there is one. -/
def point (fraction : Text) : Text := if fraction = [] then [] else '.' :: fraction

theorem readFraction?_point (h : Digits fraction)
    (hrest : ∀ c ∈ rest.head?, Decimal.isDigit c = false ∧ c ≠ '.') :
    readFraction? (point fraction ++ rest) = some (fraction, rest) := by
  have hdigit : ∀ c ∈ rest.head?, Decimal.isDigit c = false := fun c hc => (hrest c hc).1
  cases fraction with
  | nil =>
    change readFraction? rest = _
    unfold readFraction?
    split
    · next t => exact absurd rfl (hrest '.' rfl).2
    · rfl
  | cons c ds =>
    change readFraction? ('.' :: ((c :: ds) ++ rest)) = _
    unfold readFraction?
    simp only
    rw [takeWhile_isDigit h hdigit, dropWhile_isDigit h hdigit]

/-- What a document writes behind the digits of a number: nothing, or an exponent with its sign. -/
inductive ExponentText : Text → Int → Prop where
  | none : ExponentText [] 0
  | plus (n : Nat) : ExponentText ('e' :: '+' :: Numeral.ofNat n) n
  | minus (n : Nat) : ExponentText ('e' :: '-' :: Numeral.ofNat n) (-n)

theorem readExponent?_append (h : ExponentText expText e) (hrest : NumberEnds rest) :
    readExponent? (expText ++ rest) = some (e, rest) := by
  have hdigits (n : Nat) := readDigits?_append (digits_ofNat n) Numeral.ofNat_ne_nil
    (fun c hc => (hrest c hc).1)
  cases h with
  | none =>
    cases rest with
    | nil => rfl
    | cons c t =>
      obtain ⟨-, -, he, hE⟩ := hrest c rfl
      exact if_neg (not_or_intro he hE)
  | plus n =>
    change (readDigits? (Numeral.ofNat n ++ rest)).map _ = _
    rw [hdigits n, digitsValue_ofNat]
    rfl
  | minus n =>
    change (readDigits? (Numeral.ofNat n ++ rest)).map _ = _
    rw [hdigits n, digitsValue_ofNat]
    rfl

/-- Behind the digits there is neither a digit nor a point. -/
theorem ExponentText.head (h : ExponentText expText e) (hrest : NumberEnds rest) :
    ∀ c ∈ (expText ++ rest).head?, Decimal.isDigit c = false ∧ c ≠ '.' := by
  intro c hc
  cases h with
  | none => exact ⟨(hrest c hc).1, (hrest c hc).2.1⟩
  | plus n =>
    cases hc
    decide
  | minus n =>
    cases hc
    decide

theorem readUnsigned?_append (hw : Whole whole) (hf : Digits fraction)
    (he : ExponentText expText e) (hrest : NumberEnds rest) (negative : Bool) :
    readUnsigned? negative (whole ++ (point fraction ++ (expText ++ rest))) =
      some (⟨negative, whole, fraction, e, point fraction ++ expText == []⟩, rest) := by
  have hhead := he.head hrest
  have hafter : ∀ c ∈ (point fraction ++ (expText ++ rest)).head?, Decimal.isDigit c = false := by
    intro c hc
    cases fraction with
    | nil => exact (hhead c hc).1
    | cons c' ds =>
      cases hc
      rfl
  -- the reader tells a plain number by what it has left, which the digits behind it change
  have hplain : (rest.length == (point fraction ++ (expText ++ rest)).length) =
      (point fraction ++ expText == []) := by
    rw [Bool.eq_iff_iff, beq_iff_eq, beq_iff_eq, ← List.length_eq_zero_iff]
    simp only [List.length_append]
    omega
  unfold readUnsigned?
  rw [readWhole?_append hw hafter]
  simp only [Option.bind_eq_bind, Option.bind_some]
  rw [readFraction?_point hf hhead]
  simp only [Option.bind_some]
  rw [readExponent?_append he hrest, Option.bind_some, hplain]
  rfl

/-! ### Numbers -/

/-- The sign of a number. -/
def sign (negative : Bool) : Text := if negative then ['-'] else []

/-- The text is read as a number of these parts, up to its end. -/
def Reads (t : Text) (p : NumberParts) : Prop :=
  ∀ rest, NumberEnds rest → read? (t ++ rest) = some (p, rest)

/-- A number with nothing behind it. -/
theorem Reads.alone {p : NumberParts} (h : Reads t p) : read? t = some (p, []) := by
  have hread := h [] numberEnds_nil
  rwa [List.append_nil] at hread

/-- A sign, digits, perhaps a point with more digits, and perhaps an exponent. -/
theorem reads_written (hw : Whole whole) (hf : Digits fraction) (he : ExponentText expText e)
    (negative : Bool) :
    Reads (sign negative ++ (whole ++ (point fraction ++ expText)))
      ⟨negative, whole, fraction, e, point fraction ++ expText == []⟩ := by
  intro rest hrest
  have hread := readUnsigned?_append hw hf he hrest negative
  simp only [List.append_assoc]
  cases negative with
  | true => exact hread
  | false =>
    -- the first digit is no minus sign
    obtain ⟨c, ds, rfl⟩ := List.exists_cons_of_ne_nil hw.ne_nil
    have hc : c ≠ '-' := by
      rintro rfl
      exact absurd (hw.digits '-' List.mem_cons_self) (by decide)
    change read? (c :: _) = _
    unfold read?
    split
    · next heq => exact absurd (List.cons.inj heq).1 hc
    · exact hread

/-- A number begins with a minus sign or a digit. -/
theorem exists_cons_of_read? {r : NumberParts × Text} (h : read? t = some r) :
    ∃ c s, t = c :: s ∧ (c = '-' ∨ Decimal.isDigit c = true) := by
  unfold read? at h
  split at h
  · next s => exact ⟨'-', s, rfl, .inl rfl⟩
  · unfold readUnsigned? at h
    obtain ⟨w, hw, -⟩ := Option.bind_eq_some_iff.1 h
    cases t with
    | nil => cases hw
    | cons c s =>
      refine ⟨c, s, rfl, .inr ?_⟩
      by_cases hc : Decimal.isDigit c = true
      · exact hc
      · unfold readWhole? at hw
        rw [List.takeWhile_cons_of_neg hc] at hw
        cases hw

/-! ### Integers -/

/-- The parts of an integer. -/
def ofInt (n : Int) : NumberParts := ⟨n < 0, Numeral.ofNat n.natAbs, [], 0, true⟩

theorem reads_ofInt (n : Int) : Reads (Numeral.ofInt n) (ofInt n) := by
  have hread (n : Nat) := reads_written (whole_ofNat n) digits_nil .none
  cases n with
  | ofNat n =>
    have hparts : ofInt (Int.ofNat n) = ⟨false, Numeral.ofNat n, [], 0, true⟩ := by simp [ofInt]
    rw [hparts]
    change Reads (Numeral.ofNat n) _
    simpa [sign, point] using hread n false
  | negSucc n =>
    have hparts : ofInt (Int.negSucc n) = ⟨true, Numeral.ofNat (n + 1), [], 0, true⟩ := by
      simp [ofInt, Int.negSucc_lt_zero]
    rw [hparts]
    change Reads ('-' :: Numeral.ofNat (n + 1)) _
    simpa [sign, point] using hread (n + 1) true

/-- An integer that fits 64 bits, with or without a sign, is exact. -/
theorem toJson?_ofInt {n : Int} (hlow : -(twoTo 63 : Int) ≤ n) (hhigh : n < twoTo 64)
    (real : NumberParts → Option Double) : (ofInt n).toJson? real = some (int n) := by
  have h63 : twoTo 63 = 9223372036854775808 := rfl
  have h64 : twoTo 64 = 18446744073709551616 := rfl
  unfold toJson? ofInt
  simp only [digitsValue_ofNat, h63, h64] at *
  -- a sign takes a bit: below zero the bound is `2 ^ 63`, and above it is `2 ^ 64`
  by_cases hn : n < 0
  · rw [if_neg (by simp [hn]), if_pos (by simp [hn]; omega)]
    congr
    omega
  · rw [if_pos (by simp [hn]; omega)]
    congr
    omega

/-! ### Doubles -/

/-- The decimal that the digits and the exponent stand for. -/
def decimal (p : NumberParts) : Decimal :=
  ⟨Decimal.digitsValue (p.whole ++ p.fraction), p.exponent - p.fraction.length⟩

/-- The number is the one that a finite double is written as: it has a point or an exponent, the
sign of the double, and the value of its shortest decimal. -/
structure Denotes (p : NumberParts) (d : Double) : Prop where
  plain : p.plain = false
  negative : p.negative = d.isNegative
  zero : d.isZero = true → p.decimal.digits = 0
  shortest : d.isZero = false → p.decimal.SameValue (d.shortest .toEven)

theorem exponentText_ofInt (e : Int) :
    ExponentText ('e' :: ((if 0 ≤ e then ['+'] else []) ++ Numeral.ofInt e)) e := by
  cases e with
  | ofNat n => exact .plus n
  | negSucc n => exact .minus (n + 1)

/-- A decimal with an exponent has its first digit before the point and the others behind it. -/
theorem scientific_eq (digits : Text) (e : Int) :
    Layout.json.scientific digits e = digits.take 1 ++
      (point (digits.drop 1) ++ 'e' :: ((if 0 ≤ e then ['+'] else []) ++ Numeral.ofInt e)) := by
  have hsign : (Layout.json.expPlus = true ∧ 0 ≤ e) = (0 ≤ e) := by simp [Layout.json]
  unfold Layout.scientific
  simp only [hsign]
  cases digits.drop 1 with
  | nil => simp [Layout.json, point]
  | cons c ds => simp [Layout.json, point]

/-- A decimal is written as digits with a point or an exponent, which have its value. -/
theorem exists_written_decimal {a : Decimal} (ha : a.digits ≠ 0) :
    ∃ whole fraction expText e, Layout.json.decimal a = whole ++ (point fraction ++ expText) ∧
      point fraction ++ expText ≠ [] ∧ Whole whole ∧ Digits fraction ∧ ExponentText expText e ∧
      Decimal.SameValue ⟨Decimal.digitsValue (whole ++ fraction), e - fraction.length⟩ a := by
  have htext : a.text = Numeral.ofNat a.digits := rfl
  unfold Layout.decimal
  simp only [htext]
  generalize he : a.exp + ((Numeral.ofNat a.digits).length : Int) - 1 = e
  split
  · obtain ⟨whole, fraction, heq, hw, hf, hne, hvalue⟩ := Layout.positional_eq ha e
    refine ⟨whole, fraction, [], 0, ?_, ?_, hw, hf, .none, ?_⟩
    · simp [heq, point, hne]
    · simp [point, hne]
    · have hexp : e + 1 - ((Numeral.ofNat a.digits).length : Int) = a.exp := by omega
      rw [hexp] at hvalue
      simpa using hvalue
  · refine ⟨_, _, _, e, scientific_eq _ e,
      List.append_ne_nil_of_right_ne_nil _ (List.cons_ne_nil _ _), Decimal.whole_take_ofNat ha 0,
      Decimal.digits_drop_ofNat _ 1, exponentText_ofInt e, ?_⟩
    have hexp : e - (((Numeral.ofNat a.digits).drop 1).length : Int) = a.exp := by
      have hlength := List.length_pos_iff.2 (Numeral.ofNat_ne_nil (n := a.digits))
      rw [List.length_drop]
      omega
    rw [List.take_append_drop, digitsValue_ofNat, hexp]
    exact .refl a

/-- The text of a finite double is read as the number it denotes. -/
theorem exists_reads_toJson (h : d.isFinite = true) : ∃ p, Reads d.toJson p ∧ p.Denotes d := by
  have htext : d.toJson = sign d.isNegative ++
      (if d.isZero then ("0.0" : Text) else Layout.json.decimal (d.shortest .toEven)) := if_pos h
  by_cases hzero : d.isZero = true
  · rw [htext, if_pos hzero]
    have hread := reads_written whole_zero (digits_zeros 1) .none d.isNegative
    exact ⟨_, hread, rfl, rfl, fun _ => rfl, fun hz => by simp [hzero] at hz⟩
  · have ha : (d.shortest .toEven).digits ≠ 0 :=
      Double.digits_shortest_ne_zero (Bool.eq_false_iff.2 hzero)
    obtain ⟨whole, fraction, expText, e, heq, hplain, hw, hf, he, hvalue⟩ :=
      exists_written_decimal ha
    rw [htext, if_neg hzero, heq]
    exact ⟨_, reads_written hw hf he d.isNegative, beq_false_of_ne hplain, rfl,
      fun hz => absurd hz hzero, fun _ => hvalue⟩

end NumberParts

end ReflectCalc.Json
