import ReflectCalc.Proofs.Number.Shortest

/-!
# The text of a double

The text of a double inside a string, `Double.toText`, and what is read from it.

* `Layout.Positional` and `Layout.Scientific` are the two written forms, without a sign;
* `Layout.exists_plain_decimal` — a decimal is written in one of them, by the place of its leading
  digit, and the text is read as a decimal of the same value;
* `Double.read?_toText` is the main result: the text of a double is read as this double, and whether
  it has an exponent depends on its absolute value alone.

Two lemmas on shortest decimals carry the step from decimals to doubles. The text is read as the
double again by `Double.rounded_shortest`, and the place of the leading digit of the decimal is
replaced by the value of the double in `Double.le_value_shortest_iff`.
-/

namespace ReflectCalc

namespace Decimal

variable {ds : Text} {n : ℕ} {e : ℤ}

/-! ### Exponents -/

/-- No digit of a small exponent is left out. -/
theorem exponentValue_eq (h : digitsValue ds < 65536) : exponentValue ds = digitsValue ds := by
  -- the value so far never exceeds the one in the end
  have hfold : ∀ n, ds.foldl (fun n c => 10 * n + (c.toNat - '0'.toNat)) n < 65536 →
      ds.foldl (fun n c => if n < 65536 then 10 * n + (c.toNat - '0'.toNat) else n) n =
        ds.foldl (fun n c => 10 * n + (c.toNat - '0'.toNat)) n := by
    clear h
    induction ds with
    | nil => exact fun _ _ => rfl
    | cons c ds ih =>
      intro n hn
      rw [List.foldl_cons] at hn
      have hle : 10 * n + (c.toNat - '0'.toNat) < 65536 := by
        rw [foldl_digits] at hn
        have hpos : 0 < tenTo ds.length := Nat.pow_pos (by decide)
        have hmul := Nat.le_mul_of_pos_right (10 * n + (c.toNat - '0'.toNat)) hpos
        omega
      rw [List.foldl_cons, List.foldl_cons, if_pos (by omega), ih _ hn]
  exact hfold 0 h

theorem readExponent?_ofInt (he : -400 < e ∧ e < 400) :
    readExponent? (Numeral.ofInt e) = some e := by
  have hvalue (n : ℕ) (hn : n ≤ 400) : exponentValue (Numeral.ofNat n) = n := by
    have hdigits := digitsValue_ofNat n
    rw [exponentValue_eq (by omega), hdigits]
  cases e with
  | ofNat n =>
    have hn : (n : ℤ) < 400 := he.2
    rw [Numeral.ofInt, readExponent?_digits (digits_ofNat n) Numeral.ofNat_ne_nil,
      hvalue n (by omega)]
    rfl
  | negSucc n =>
    have hall : (Numeral.ofNat (n + 1)).all isDigit = true :=
      List.all_eq_true.2 (digits_ofNat (n + 1))
    rw [Numeral.ofInt, readExponent?, if_pos ⟨Numeral.ofNat_ne_nil, hall⟩,
      hvalue (n + 1) (by omega)]
    rfl

/-- An integer is digits behind a minus sign or none. -/
theorem exists_ofInt_eq (e : ℤ) : ∃ sign ds, (sign = [] ∨ sign = ['-']) ∧ Digits ds ∧ ds ≠ [] ∧
    Numeral.ofInt e = sign ++ ds := by
  cases e with
  | ofNat n => exact ⟨[], _, .inl rfl, digits_ofNat n, Numeral.ofNat_ne_nil, rfl⟩
  | negSucc n => exact ⟨['-'], _, .inr rfl, digits_ofNat (n + 1), Numeral.ofNat_ne_nil, rfl⟩

theorem exponent_ofInt (e : ℤ) : Exponent ('E' :: Numeral.ofInt e) := by
  obtain ⟨sign, ds, hsign, hds, hne, heq⟩ := exists_ofInt_eq e
  rw [heq]
  rcases hsign with rfl | rfl
  · exact .some (.inr rfl) .none hds hne
  · exact .some (.inr rfl) .minus hds hne

end Decimal

namespace Layout

open Decimal (Digits Whole SameValue Form digitsValue digitsValue_append digitsValue_ofNat
  sameValue_scaled)

variable {a : Decimal} {n : ℕ} {t : Text}

/-! ### The written forms -/

/-- Digits on either side of a point. -/
inductive Positional : Text → Prop where
  | mk {whole fraction : Text} (hwhole : Whole whole) (hfraction : Digits fraction)
      (hne : fraction ≠ []) : Positional (whole ++ '.' :: fraction)

/-- A digit other than zero, a point, digits, and an exponent. -/
inductive Scientific : Text → Prop where
  | mk {c : Char} {fraction sign ds : Text} (hc : Decimal.isDigit c = true) (hzero : c ≠ '0')
      (hfraction : Digits fraction) (hne : fraction ≠ []) (hsign : sign = [] ∨ sign = ['-'])
      (hds : Digits ds) (hne' : ds ≠ []) :
      Scientific (c :: '.' :: (fraction ++ 'E' :: (sign ++ ds)))

/-- In front of an exponent the leading digit stands alone, with the others or a zero behind the
point. -/
theorem scientific_eq (hn : n ≠ 0) (e : ℤ) :
    ∃ c fraction, plain.scientific (Numeral.ofNat n) e =
        c :: '.' :: (fraction ++ 'E' :: Numeral.ofInt e) ∧
      Digits (c :: fraction) ∧ c ≠ '0' ∧ fraction ≠ [] ∧
      SameValue ⟨digitsValue (c :: fraction), e - (fraction.length : ℤ)⟩
        ⟨n, e + 1 - (Numeral.ofNat n).length⟩ := by
  obtain ⟨c, ds, hds, hc⟩ := Decimal.exists_cons_ofNat hn
  have hvalue := digitsValue_ofNat n
  have hdigits := Decimal.digits_ofNat n
  rw [hds] at hvalue hdigits
  unfold scientific
  rw [hds]
  cases ds with
  | nil =>
    refine ⟨c, ['0'], rfl, hdigits.append (Decimal.digits_zeros 1), hc, List.cons_ne_nil _ _, ?_⟩
    have htenth : digitsValue [c, '0'] = n * tenTo 1 := by
      change digitsValue ([c] ++ ['0']) = _
      rw [digitsValue_append, hvalue]
      rfl
    have hexp : e + 1 - (([c] : Text).length : ℤ) = e := by
      rw [List.length_singleton]
      omega
    rw [htenth, hexp]
    exact sameValue_scaled n e 1
  | cons c' ds =>
    refine ⟨c, c' :: ds, by simp [plain], hdigits, hc, List.cons_ne_nil _ _, ?_⟩
    have hexp : e + 1 - ((c :: c' :: ds).length : ℤ) = e - ((c' :: ds).length : ℤ) := by
      rw [List.length_cons]
      omega
    rw [hvalue, hexp]
    exact .refl _

/-- A decimal is written without an exponent just if its leading digit is near the point, and what
is written is read as a decimal of the same value. -/
theorem exists_plain_decimal (ha : a.digits ≠ 0)
    (hlog : -400 < Int.log 10 a.value ∧ Int.log 10 a.value < 400) :
    (if -3 ≤ Int.log 10 a.value ∧ Int.log 10 a.value ≤ 6 then Positional (plain.decimal a)
      else Scientific (plain.decimal a)) ∧
    Form (plain.decimal a) ∧
    ∃ b, Decimal.read? (plain.decimal a) = some b ∧ b.value = a.value := by
  have hexp : Int.log 10 a.value + 1 - (Numeral.ofNat a.digits).length = a.exp := by
    have htext : a.text = Numeral.ofNat a.digits := rfl
    rw [Decimal.log_value ha, htext]
    omega
  have hdecimal : plain.decimal a = if -3 ≤ Int.log 10 a.value ∧ Int.log 10 a.value ≤ 6
      then positional (Numeral.ofNat a.digits) (Int.log 10 a.value)
      else plain.scientific (Numeral.ofNat a.digits) (Int.log 10 a.value) := by
    rw [Decimal.log_value ha]
    rfl
  rw [hdecimal]
  generalize Int.log 10 a.value = e at hlog hexp
  by_cases hplain : -3 ≤ e ∧ e ≤ 6
  · rw [if_pos hplain, if_pos hplain]
    obtain ⟨whole, fraction, heq, hwhole, hfraction, hne, hvalue⟩ := positional_eq ha e
    rw [hexp] at hvalue
    have hnil : ¬ (whole = [] ∧ fraction = []) := fun h => hne h.2
    have hread := Decimal.read?_point hwhole.digits hfraction hnil .none
    rw [List.append_nil] at hread
    rw [heq]
    exact ⟨.mk hwhole hfraction hne, ⟨_, [], .point hwhole.digits hfraction hnil, .none, by simp⟩,
      _, hread, hvalue.value_eq⟩
  · rw [if_neg hplain, if_neg hplain]
    obtain ⟨c, fraction, heq, hdigits, hc, hne, hvalue⟩ := scientific_eq ha e
    rw [hexp] at hvalue
    obtain ⟨hdigit, hfraction⟩ := List.forall_mem_cons.1 hdigits
    have hwhole : Digits [c] := List.forall_mem_singleton.2 hdigit
    have hnil : ¬ ([c] = [] ∧ fraction = []) := fun h => hne h.2
    have hexponent := Decimal.exponent_ofInt e
    have hread := Decimal.read?_point hwhole hfraction hnil hexponent
    have hform : Form (([c] ++ '.' :: fraction) ++ 'E' :: Numeral.ofInt e) :=
      ⟨_, _, .point hwhole hfraction hnil, hexponent, rfl⟩
    rw [heq]
    refine ⟨?_, by simpa using hform, ⟨digitsValue (c :: fraction), e - fraction.length⟩, ?_,
      hvalue.value_eq⟩
    · obtain ⟨sign, ds, hsign, hds, hne', heq⟩ := Decimal.exists_ofInt_eq e
      rw [heq]
      exact .mk hdigit hc hfraction hne hsign hds hne'
    · refine hread.trans ?_
      rw [Decimal.readTail?, if_pos (.inr rfl), Decimal.readExponent?_ofInt hlog]
      rfl

end Layout

namespace Double

open Decimal (Sign Form)
open Layout (Positional Scientific)

variable {d : Double} {t sign : Text} {negative : Bool}

/-! ### Reading a decimal behind a sign -/

theorem trim_of_form (hsign : Sign sign negative) (h : Form t) : (sign ++ t).trim = sign ++ t := by
  refine Text.trim_of_trimmed (Text.trimmed_of_forall fun c hc => ?_)
  rcases List.mem_append.1 hc with hc | hc
  · exact isBlank_of_isDecimalChar (hsign.isDecimalChar c hc)
  · exact isBlank_of_isDecimalChar (h.isDecimalChar c hc)

theorem read?_of_form {a : Decimal} (hsign : Sign sign negative) (h : Form t)
    (hread : Decimal.read? t = some a) : read? (sign ++ t) = some (ofDecimal negative a) := by
  have hstrip : stripTypeLetter t = t := stripTypeLetter_of_isDecimalChar h.isDecimalChar
  have hlooks : looksDecimal t = true := Decimal.looksDecimal_of_form .none h
  have hsigned := Decimal.readSigned?_append .none h
  rw [List.nil_append, hread] at hsigned
  have hbody : readBody? t = some (ofDecimal false a) := by
    rw [readBody?_of_looksDecimal (by rwa [hstrip]), hstrip, readNumber?_of_looksDecimal hlooks,
      hsigned]
    rfl
  rw [read?_of_trim hsign (trim_of_form hsign h) fun _ => (Typed.plain h).head, hbody,
    Option.map_some]
  cases negative with
  | false => rfl
  | true => exact congrArg some (neg_ofDecimal false a)

/-! ### The text of a double -/

/-- Whether a finite double is written with an exponent: it is not zero, and less than a thousandth
or at least ten million. -/
def Extreme (d : Double) : Prop :=
  d.isZero = false ∧ (d.absValue < 10 ^ (-3 : ℤ) ∨ 10 ^ (7 : ℤ) ≤ d.absValue)

theorem extreme_iff (h : d.isFinite = true) (hzero : d.isZero = false) :
    d.Extreme ↔ ¬ (-3 ≤ Int.log 10 (d.shortest .upward).value ∧
      Int.log 10 (d.shortest .upward).value ≤ 6) := by
  have hne : (d.shortest .upward).digits ≠ 0 := digits_shortest_ne_zero hzero
  have hpos := Decimal.value_pos hne
  have hlow := Int.zpow_le_iff_le_log (b := 10) (x := -3) (by decide) hpos
  have hhigh := Int.zpow_le_iff_le_log (b := 10) (x := 7) (by decide) hpos
  rw [Nat.cast_ofNat, thousandth_le_value_shortest_iff h] at hlow
  rw [Nat.cast_ofNat, tenMillion_le_value_shortest_iff h] at hhigh
  rw [Extreme, and_iff_right hzero, hhigh, ← not_le, hlow]
  omega

/-- Behind its sign, a finite double is written as a decimal that is rounded to it. -/
theorem exists_toText_eq (h : d.isFinite = true) :
    ∃ t a, d.toText = (if d.isNegative then ['-'] else []) ++ t ∧
      (d.Extreme → Scientific t) ∧ (¬ d.Extreme → Positional t) ∧
      Form t ∧ Decimal.read? t = some a ∧ rounded a.value = d.magnitude := by
  have hlt : d.magnitude < infinityMagnitude := of_decide_eq_true h
  have htext : d.toText = Layout.plain.finite d := by
    have hnan : d.isNaN = false := isNaN_of_isFinite h
    have hinfinite : d.isInfinite = false := beq_false_of_ne hlt.ne
    rw [toText, hnan, hinfinite]
    rfl
  rw [htext]
  unfold Layout.finite
  by_cases hzero : d.isZero = true
  · have hextreme : ¬ d.Extreme := fun hextreme => by simp [hextreme.1] at hzero
    have hmagnitude : d.magnitude = 0 := eq_of_beq hzero
    have hdigit : Decimal.Digits ['0'] := Decimal.digits_zeros 1
    have hform : Form "0.0" :=
      ⟨"0.0", [], @Decimal.Mantissa.point ['0'] ['0'] hdigit hdigit (by simp), .none, rfl⟩
    refine ⟨"0.0", ⟨0, -1⟩, by rw [if_pos hzero], fun h => absurd h hextreme, fun _ => ?_, hform,
      rfl, ?_⟩
    · exact @Positional.mk ['0'] ['0'] Decimal.whole_zero hdigit (List.cons_ne_nil _ _)
    · rw [hmagnitude, Decimal.value, Nat.cast_zero, zero_mul, rounded_zero]
  · have hzero' : d.isZero = false := Bool.eq_false_iff.2 hzero
    have hne : (d.shortest .upward).digits ≠ 0 := digits_shortest_ne_zero hzero'
    obtain ⟨hwritten, hform, a, hread, hvalue⟩ :=
      Layout.exists_plain_decimal hne (log_value_shortest h hzero')
    refine ⟨_, a, by rw [if_neg hzero]; rfl, fun hextreme => ?_, fun hextreme => ?_, hform, hread,
      ?_⟩
    · rwa [if_neg ((extreme_iff h hzero').1 hextreme)] at hwritten
    · rw [extreme_iff h hzero', not_not] at hextreme
      rwa [if_pos hextreme] at hwritten
    · rw [hvalue, rounded_shortest _ h]

/-- **The text of a double is read as this double**, and the text of a NaN as a NaN. -/
theorem read?_toText (d : Double) :
    (d.isNaN = false → read? d.toText = some d) ∧
    (d.isNaN = true → ∃ e, read? d.toText = some e ∧ e.isNaN = true) ∧
    (d.isFinite = true → ∃ t, d.toText = (if d.isNegative then ['-'] else []) ++ t ∧
      (d.Extreme → Scientific t) ∧ (¬ d.Extreme → Positional t)) := by
  refine ⟨fun hnan => ?_, fun hnan => ?_, fun hfinite => ?_⟩
  · by_cases hfinite : d.isFinite = true
    · obtain ⟨t, a, htext, -, -, hform, hread, hround⟩ := exists_toText_eq hfinite
      have hsign : Sign (if d.isNegative then ['-'] else []) d.isNegative := by
        cases d.isNegative with
        | false => exact .none
        | true => exact .minus
      rw [htext, read?_of_form hsign hform hread, ofDecimal_eq, hround, ofMagnitude_magnitude]
    · have hmagnitude : d.magnitude = infinityMagnitude :=
        le_antisymm (magnitude_le hnan)
          (not_lt.1 (of_decide_eq_false (Bool.eq_false_iff.2 hfinite)))
      have hinfinite : d.isInfinite = true := beq_iff_eq.2 hmagnitude
      have hd := ofMagnitude_magnitude d
      rw [hmagnitude] at hd
      rw [toText, hnan, hinfinite]
      cases hsign : d.isNegative with
      | false =>
        rw [hsign] at hd
        exact congrArg some hd
      | true =>
        rw [hsign] at hd
        exact congrArg some hd
  · refine ⟨nan, ?_, by decide⟩
    rw [toText, if_pos hnan]
    rfl
  · obtain ⟨t, a, htext, hscientific, hpositional, -⟩ := exists_toText_eq hfinite
    exact ⟨t, htext, hscientific, hpositional⟩

/-- Ten million is the first whole number with an exponent, and a NaN with a sign loses it. -/
theorem read?_toText_tenMillion :
    (toText ⟨0x416312D000000000⟩ = "1.0E7" ∧ read? "1.0E7" = some ⟨0x416312D000000000⟩) ∧
    (∃ e, read? (toText nan.neg) = some e ∧ e.isNaN = true) ∧
    ∃ t, toText ⟨0xC16312CFFFFFFFFF⟩ = '-' :: t ∧ Positional t := by
  have htext : toText ⟨0x416312D000000000⟩ = "1.0E7" := by decide +kernel
  refine ⟨⟨htext, ?_⟩, (read?_toText nan.neg).2.1 (by decide), ?_⟩
  · rw [← htext]
    exact (read?_toText _).1 (by decide)
  · obtain ⟨t, ht, -, hpositional⟩ := (read?_toText ⟨0xC16312CFFFFFFFFF⟩).2.2 (by decide)
    refine ⟨t, ht, hpositional fun hextreme => ?_⟩
    have hsignificand : significand ⟨0xC16312CFFFFFFFFF⟩ = 5368709119999999 := by decide
    have hexponent : exponent ⟨0xC16312CFFFFFFFFF⟩ = -29 := by decide
    rcases hextreme.2 with h | h
    · rw [absValue, hsignificand, hexponent] at h
      norm_num at h
    · rw [absValue, hsignificand, hexponent] at h
      norm_num at h

end Double

end ReflectCalc
