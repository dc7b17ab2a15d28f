import ReflectCalc.Proofs.Number.Decimal
import ReflectCalc.Proofs.Text.Pieces

/-!
# The grammar of doubles

Which texts are doubles, and what a sign in front does to the value. The readers of
`ReflectCalc.Number.Read` are layers, and each takes a sign of its own off the front.

* `Double.Typed` is a decimal with at most one type letter, and `Double.Unsigned` the names besides;
* `Double.Documented` is an unsigned form behind at most one sign, and `Double.SignedTwice` a
  decimal behind two;
* `Double.read?_grammar` is the main result: these are the doubles, and each minus sign negates.

No name of a number gets past `Double.looksDecimal`, since a name has no digit
(`Double.readNumber?_of_looksDecimal`). So all that the layers add to the grammar of decimals is the
second sign, as in `Double.isSome_read?_two_signs`.
-/

namespace ReflectCalc.Double

open Decimal (Sign Form looksDecimal_of_form)

variable {t u name sign body : Text} {c : Char} {negative b : Bool} {m : Nat}

/-! ### Changing the sign -/

/-- The value with its sign changed, if it is to be. -/
def negateIf (negative : Bool) (d : Double) : Double := if negative then d.neg else d

theorem toNat_bits_ofMagnitude (h : m < twoTo 63) :
    (ofMagnitude b m).bits.toNat = (if b then twoTo 63 else 0) + m := by
  -- the sign bit and the magnitude together fit the 64 bits
  have hbits : (if b then twoTo 63 else 0) + m < 2 ^ 64 := by
    have htop : twoTo 63 + twoTo 63 = 2 ^ 64 := by decide
    split <;> omega
  exact UInt64.toNat_ofNat_of_lt' hbits

theorem isNegative_ofMagnitude (h : m < twoTo 63) : (ofMagnitude b m).isNegative = b := by
  unfold isNegative
  rw [toNat_bits_ofMagnitude h]
  cases b with
  | false => simpa using h
  | true => simp

theorem magnitude_ofMagnitude (h : m < twoTo 63) : (ofMagnitude b m).magnitude = m := by
  unfold magnitude
  rw [toNat_bits_ofMagnitude h]
  cases b with
  | false => simpa using Nat.mod_eq_of_lt h
  | true => simpa using Nat.mod_eq_of_lt h

theorem neg_ofMagnitude (h : m < twoTo 63) : (ofMagnitude b m).neg = ofMagnitude (!b) m := by
  rw [neg, isNegative_ofMagnitude h, magnitude_ofMagnitude h]

/-- The sign of a decimal does not matter to its magnitude. -/
theorem exists_ofDecimal_eq (d : Decimal) :
    ∃ m < twoTo 63, ∀ negative, ofDecimal negative d = ofMagnitude negative m := by
  have hzero : 0 < twoTo 63 := by decide
  have hinfinity : infinityMagnitude < twoTo 63 := by decide
  unfold ofDecimal ofRatio
  split
  · exact ⟨0, hzero, fun _ => rfl⟩
  · split
    · exact ⟨infinityMagnitude, hinfinity, fun _ => rfl⟩
    · split
      · exact ⟨0, hzero, fun _ => rfl⟩
      · refine ⟨_, ?_, fun _ => rfl⟩
        split
        · exact hzero
        · exact Nat.lt_of_le_of_lt (Nat.min_le_left _ _) hinfinity

theorem neg_ofDecimal (negative : Bool) (d : Decimal) :
    (ofDecimal negative d).neg = ofDecimal (!negative) d := by
  obtain ⟨m, hm, h⟩ := exists_ofDecimal_eq d
  rw [h, h, neg_ofMagnitude hm]

/-- Two signs in a row come to one. -/
theorem negateIf_ofDecimal (outer inner : Bool) (d : Decimal) :
    negateIf outer (ofDecimal inner d) = negateIf (outer != inner) (ofDecimal false d) := by
  cases outer <;> cases inner <;> simp [negateIf, neg_ofDecimal]

/-! ### The forms -/

/-- A decimal with at most one type letter behind it. -/
inductive Typed : Text → Prop where
  | plain {t : Text} (h : Form t) : Typed t
  | letter {t : Text} {c : Char} (h : Form t) (hc : isTypeLetter c = true) : Typed (t ++ [c])

/-- A double without a sign. -/
inductive Unsigned : Text → Prop where
  | nan : Unsigned "NaN"
  | infinity : Unsigned "Infinity"
  | typed {t : Text} (h : Typed t) : Unsigned t

/-- An unsigned form behind at most one sign. -/
def Documented (t : Text) : Prop :=
  ∃ sign negative u, Sign sign negative ∧ Unsigned u ∧ t = sign ++ u

/-- A decimal behind two signs. -/
def SignedTwice (t : Text) : Prop :=
  ∃ outer inner negative negative' u, Sign outer negative ∧ Sign inner negative' ∧
    outer ≠ [] ∧ inner ≠ [] ∧ Typed u ∧ t = outer ++ (inner ++ u)

/-! ### The type letter -/

theorem not_isTypeLetter_of_isDecimalChar (h : isDecimalChar c = true) : isTypeLetter c = false := by
  rw [Bool.eq_false_iff]
  intro hletter
  simp only [isTypeLetter, Bool.or_eq_true, decide_eq_true_eq] at hletter
  rcases hletter with ((rfl | rfl) | rfl) | rfl <;> cases h

theorem stripTypeLetter_of_isDecimalChar (h : ∀ c ∈ t, isDecimalChar c = true) :
    stripTypeLetter t = t := by
  unfold stripTypeLetter
  split
  · next c hc =>
    rw [not_isTypeLetter_of_isDecimalChar (h c (List.mem_of_getLast? hc))]
    rfl
  · rfl

theorem stripTypeLetter_append (h : isTypeLetter c = true) : stripTypeLetter (t ++ [c]) = t := by
  unfold stripTypeLetter
  rw [List.getLast?_concat, List.dropLast_concat]
  exact if_pos h

/-- What was taken off is one type letter or nothing. -/
theorem stripTypeLetter_eq (t : Text) :
    t = stripTypeLetter t ∨ ∃ c, isTypeLetter c = true ∧ t = stripTypeLetter t ++ [c] := by
  rcases List.eq_nil_or_concat t with rfl | ⟨front, c, rfl⟩
  · exact .inl rfl
  · rw [List.concat_eq_append]
    by_cases hc : isTypeLetter c = true
    · exact .inr ⟨c, hc, by rw [stripTypeLetter_append hc]⟩
    · refine .inl ?_
      unfold stripTypeLetter
      rw [List.getLast?_concat]
      exact (if_neg hc).symm

/-! ### Names have no digits -/

theorem toLower_of_isDigit (h : Decimal.isDigit c = true) : c.toLower = c := by
  unfold Decimal.isDigit at h
  simp only [Bool.and_eq_true, decide_eq_true_eq] at h
  refine dif_neg fun hupper => ?_
  have hle : 'A'.val ≤ '9'.val := UInt32.le_trans hupper.1 h.2
  exact absurd hle (by decide)

theorem sameIgnoringCase_of_isDigit (hc : c ∈ t) (hdigit : Decimal.isDigit c = true)
    (hname : name.lowerAscii.any Decimal.isDigit = false) : t.sameIgnoringCase name = false := by
  rw [Bool.eq_false_iff]
  intro h
  have hlower : c ∈ t.lowerAscii := List.mem_map.2 ⟨c, hc, toLower_of_isDigit hdigit⟩
  rw [eq_of_beq h] at hlower
  exact absurd hdigit (List.any_eq_false.1 hname c hlower)

theorem ofName?_eq_none (hc : c ∈ name) (hdigit : Decimal.isDigit c = true) :
    ofName? name = none := by
  unfold ofName?
  rw [sameIgnoringCase_of_isDigit hc hdigit (by decide),
    sameIgnoringCase_of_isDigit hc hdigit (by decide),
    sameIgnoringCase_of_isDigit hc hdigit (by decide)]
  rfl

/-- **What passes for a decimal is read as one or not at all.** -/
theorem readNumber?_of_looksDecimal (h : looksDecimal t = true) :
    readNumber? t = (Decimal.readSigned? t).map fun (negative, d) => ofDecimal negative d := by
  obtain ⟨hany, -⟩ := Bool.and_eq_true_iff.1 h
  obtain ⟨c, hc, hdigit⟩ := List.any_eq_true.1 hany
  obtain ⟨hminus, hplus⟩ := Decimal.not_isSign_of_isDigit hdigit
  unfold readNumber?
  cases Decimal.readSigned? t with
  | some parts => rfl
  | none =>
    -- the digit stands behind the sign, so no name does
    simp only [Option.map_none]
    split
    · next name =>
      rw [ofName?_eq_none ((List.mem_cons.1 hc).resolve_left hminus) hdigit]
      rfl
    · next name => exact ofName?_eq_none ((List.mem_cons.1 hc).resolve_left hplus) hdigit
    · exact ofName?_eq_none hc hdigit

/-! ### Behind the outer sign -/

theorem readBody?_of_looksDecimal (h : looksDecimal (stripTypeLetter t) = true) :
    readBody? t = readNumber? (stripTypeLetter t) := by
  have hnan : t ≠ "NaN" := by
    rintro rfl
    exact absurd h (by decide)
  have hinfinity : t ≠ "Infinity" := by
    rintro rfl
    exact absurd h (by decide)
  unfold readBody?
  rw [if_neg hnan, if_neg hinfinity, if_pos h]

/-- A decimal is read with its own sign and its type letter, if there are any. -/
theorem exists_readBody?_of_typed (h : Typed u) :
    ∃ d, ∀ sign negative, Sign sign negative →
      readBody? (sign ++ u) = some (ofDecimal negative d) := by
  -- with or without a type letter, the same decimal is left
  obtain ⟨t, ht, hstrip⟩ : ∃ t, Form t ∧ ∀ sign negative, Sign sign negative →
      stripTypeLetter (sign ++ u) = sign ++ t := by
    cases h with
    | plain h =>
      refine ⟨u, h, fun sign negative hsign => stripTypeLetter_of_isDecimalChar fun c hc => ?_⟩
      rcases List.mem_append.1 hc with hc | hc
      · exact hsign.isDecimalChar c hc
      · exact h.isDecimalChar c hc
    | letter h hc =>
      refine ⟨_, h, fun sign negative hsign => ?_⟩
      rw [← List.append_assoc, stripTypeLetter_append hc]
  obtain ⟨d, hd⟩ := Option.isSome_iff_exists.1 (Decimal.isSome_read?_iff.2 ht)
  refine ⟨d, fun sign negative hsign => ?_⟩
  have hlooks : looksDecimal (stripTypeLetter (sign ++ u)) = true := by
    rw [hstrip sign negative hsign]
    exact looksDecimal_of_form hsign ht
  rw [readBody?_of_looksDecimal hlooks, readNumber?_of_looksDecimal hlooks,
    hstrip sign negative hsign, Decimal.readSigned?_append hsign ht, hd]
  rfl

/-- Behind the outer sign stands a name, or a decimal with a sign of its own. -/
theorem cases_of_isSome_readBody? (h : (readBody? t).isSome) :
    t = "NaN" ∨ t = "Infinity" ∨
      ∃ sign negative u, Sign sign negative ∧ Typed u ∧ t = sign ++ u := by
  by_cases hnan : t = "NaN"
  · exact .inl hnan
  by_cases hinfinity : t = "Infinity"
  · exact .inr (.inl hinfinity)
  refine .inr (.inr ?_)
  unfold readBody? at h
  rw [if_neg hnan, if_neg hinfinity] at h
  split at h
  · next hlooks =>
    rw [readNumber?_of_looksDecimal hlooks, Option.isSome_map] at h
    obtain ⟨sign, negative, t', hsign, hform, ht'⟩ := Decimal.exists_of_isSome_readSigned? h
    -- the type letter that was taken off belongs behind this decimal
    rcases stripTypeLetter_eq t with ht | ⟨c, hc, ht⟩
    · exact ⟨sign, negative, t', hsign, .plain hform, ht.trans ht'⟩
    · refine ⟨sign, negative, t' ++ [c], hsign, .letter hform hc, ?_⟩
      rw [ht, ht', List.append_assoc]
  · cases h

theorem exists_readBody?_of_unsigned (h : Unsigned u) : ∃ d, readBody? u = some d := by
  cases h with
  | nan => exact ⟨_, rfl⟩
  | infinity => exact ⟨_, rfl⟩
  | typed h =>
    obtain ⟨d, hd⟩ := exists_readBody?_of_typed h
    exact ⟨_, hd [] false .none⟩

/-! ### The outer sign -/

/-- The first sign is taken off, if there is one. -/
theorem read?_of_trim (hsign : Sign sign negative) (ht : t.trim = sign ++ body)
    (hbody : sign = [] → body.head? ≠ some '-' ∧ body.head? ≠ some '+') :
    read? t = (readBody? body).map (negateIf negative) := by
  have hplain (x : Option Double) : x = x.map (negateIf false) := by
    cases x <;> rfl
  unfold read?
  rw [ht]
  cases hsign with
  | minus => rfl
  | plus => exact hplain _
  | none =>
    obtain ⟨hminus, hplus⟩ := hbody rfl
    rw [List.nil_append]
    split
    · exact absurd rfl hminus
    · exact absurd rfl hplus
    · exact hplain _

theorem exists_read?_eq (t : Text) : ∃ sign negative body, Sign sign negative ∧
    t.trim = sign ++ body ∧ read? t = (readBody? body).map (negateIf negative) := by
  by_cases hminus : t.trim.head? = some '-'
  · obtain ⟨body, hbody⟩ := List.head?_eq_some_iff.1 hminus
    exact ⟨_, _, body, .minus, hbody, read?_of_trim .minus hbody fun h => nomatch h⟩
  by_cases hplus : t.trim.head? = some '+'
  · obtain ⟨body, hbody⟩ := List.head?_eq_some_iff.1 hplus
    exact ⟨_, _, body, .plus, hbody, read?_of_trim .plus hbody fun h => nomatch h⟩
  exact ⟨_, _, t.trim, .none, rfl, read?_of_trim .none rfl fun _ => ⟨hminus, hplus⟩⟩

theorem Typed.head (h : Typed u) : u.head? ≠ some '-' ∧ u.head? ≠ some '+' := by
  have hform (t rest : Text) (h : Form t) :
      (t ++ rest).head? ≠ some '-' ∧ (t ++ rest).head? ≠ some '+' := by
    obtain ⟨c, t, rfl, hne⟩ := h.head
    exact ⟨fun h => hne.1 (Option.some.inj h), fun h => hne.2 (Option.some.inj h)⟩
  cases h with
  | plain h => exact List.append_nil u ▸ hform u [] h
  | letter h => exact hform _ _ h

theorem Unsigned.head (h : Unsigned u) : u.head? ≠ some '-' ∧ u.head? ≠ some '+' := by
  cases h with
  | nan => decide
  | infinity => decide
  | typed h => exact h.head

theorem isBlank_of_isDecimalChar (h : isDecimalChar c = true) : Text.isBlank c = false := by
  simp only [isDecimalChar, Bool.or_eq_true, decide_eq_true_eq] at h
  rcases h with ((((h | rfl) | rfl) | rfl) | rfl) | rfl
  · exact Numeral.isBlank_of_isDigit h
  all_goals decide

theorem isBlank_of_isTypeLetter (h : isTypeLetter c = true) : Text.isBlank c = false := by
  simp only [isTypeLetter, Bool.or_eq_true, decide_eq_true_eq] at h
  rcases h with ((rfl | rfl) | rfl) | rfl <;> decide

theorem Typed.isBlank (h : Typed u) : ∀ c ∈ u, Text.isBlank c = false := by
  intro c hc
  cases h with
  | plain h => exact isBlank_of_isDecimalChar (h.isDecimalChar c hc)
  | letter h hletter =>
    rcases List.mem_append.1 hc with hc | hc
    · exact isBlank_of_isDecimalChar (h.isDecimalChar c hc)
    · exact isBlank_of_isTypeLetter (List.mem_singleton.1 hc ▸ hletter)

theorem Unsigned.trim (h : Unsigned u) : u.trim = u := by
  cases h with
  | nan => decide
  | infinity => decide
  | typed h => exact Text.trim_of_trimmed (Text.trimmed_of_forall h.isBlank)

/-! ### The whole -/

/-- A sign in front of an unsigned form decides on that of the value. -/
theorem exists_read?_of_unsigned (hsign : Sign sign negative) (h : Unsigned u)
    (ht : t.trim = sign ++ u) :
    ∃ d, read? u = some d ∧ read? t = some (negateIf negative d) := by
  obtain ⟨d, hd⟩ := exists_readBody?_of_unsigned h
  refine ⟨d, ?_, ?_⟩
  · rw [read?_of_trim .none h.trim fun _ => h.head, hd]
    rfl
  · rw [read?_of_trim hsign ht fun _ => h.head, hd]
    rfl

/-- So do two signs in front of a decimal. -/
theorem exists_read?_of_typed {outer inner : Text} {negative' : Bool}
    (houter : Sign outer negative) (hinner : Sign inner negative') (hne : outer ≠ []) (h : Typed u)
    (ht : t.trim = outer ++ (inner ++ u)) :
    ∃ d, read? u = some d ∧ read? t = some (negateIf (negative != negative') d) := by
  obtain ⟨d, hd⟩ := exists_readBody?_of_typed h
  refine ⟨ofDecimal false d, ?_, ?_⟩
  · rw [read?_of_trim .none (Unsigned.typed h).trim fun _ => h.head]
    have hplain : readBody? u = some (ofDecimal false d) := hd [] false .none
    rw [hplain]
    rfl
  · rw [read?_of_trim houter ht fun hnil => absurd hnil hne, hd inner negative' hinner,
      Option.map_some, negateIf_ofDecimal]

/-- **A text is a double just if it is an unsigned form behind at most one sign, or a decimal behind
two.** A minus sign negates the value of what stands behind it, and a plus sign does not change it;
of two minus signs each negates. -/
theorem read?_grammar (t : Text) :
    ((read? t).isSome ↔ Documented t.trim ∨ SignedTwice t.trim) ∧
    (∀ sign negative u, Sign sign negative → Unsigned u → t.trim = sign ++ u →
      ∃ d, read? u = some d ∧ read? t = some (if negative then d.neg else d)) ∧
    ∀ outer inner negative negative' u, Sign outer negative → Sign inner negative' → outer ≠ [] →
      Typed u → t.trim = outer ++ (inner ++ u) →
      ∃ d, read? u = some d ∧ read? t = some (if negative != negative' then d.neg else d) := by
  refine ⟨⟨fun h => ?_, ?_⟩, ?_, ?_⟩
  · obtain ⟨sign, negative, body, hsign, ht, hread⟩ := exists_read?_eq t
    rw [hread, Option.isSome_map] at h
    rcases cases_of_isSome_readBody? h with rfl | rfl | ⟨inner, negative', u, hinner, hu, rfl⟩
    · exact .inl ⟨sign, negative, _, hsign, .nan, ht⟩
    · exact .inl ⟨sign, negative, _, hsign, .infinity, ht⟩
    · -- there are two signs only if neither is missing
      by_cases houter : sign = []
      · subst houter
        exact .inl ⟨inner, negative', u, hinner, .typed hu, ht⟩
      by_cases hnil : inner = []
      · subst hnil
        exact .inl ⟨sign, negative, u, hsign, .typed hu, ht⟩
      exact .inr ⟨sign, inner, negative, negative', u, hsign, hinner, houter, hnil, hu, ht⟩
  · rintro (⟨sign, negative, u, hsign, hu, ht⟩
      | ⟨outer, inner, negative, negative', u, houter, hinner, hne, -, hu, ht⟩)
    · obtain ⟨d, -, hd⟩ := exists_read?_of_unsigned hsign hu ht
      exact Option.isSome_iff_exists.2 ⟨_, hd⟩
    · obtain ⟨d, -, hd⟩ := exists_read?_of_typed houter hinner hne hu ht
      exact Option.isSome_iff_exists.2 ⟨_, hd⟩
  · intro sign negative u hsign hu ht
    exact exists_read?_of_unsigned hsign hu ht
  · intro outer inner negative negative' u houter hinner hne hu ht
    exact exists_read?_of_typed houter hinner hne hu ht

/-- One minus sign negates, and two do not. -/
theorem read?_grammar_minus :
    (∃ d, read? "1.5f" = some d ∧ read? " -1.5f " = some d.neg) ∧
    ∃ d, read? "5" = some d ∧ read? "--5" = some d := by
  have hmantissa : Form "1.5" :=
    ⟨"1.5", [], @Decimal.Mantissa.point "1" "5" (by decide) (by decide) (by decide), .none, rfl⟩
  have hfive : Form "5" := ⟨"5", [], .whole (by decide) (by decide), .none, rfl⟩
  constructor
  · exact (read?_grammar " -1.5f ").2.1 _ _ "1.5f" .minus (.typed (.letter hmantissa rfl))
      (by decide)
  · exact (read?_grammar "--5").2.2 _ _ _ _ "5" .minus .minus (by decide) (.plain hfive) (by decide)

/-- Two signs are not one. -/
theorem isSome_read?_two_signs : (read? "--5").isSome ∧ ¬ Documented (Text.trim "--5") := by
  constructor
  · decide
  · rintro ⟨sign, negative, u, hsign, hu, h⟩
    have htrim : Text.trim "--5" = "--5" := by decide
    rw [htrim] at h
    -- what stands behind the first sign begins with the second one
    cases hsign with
    | none => exact hu.head.1 (congrArg List.head? h).symm
    | plus => cases h
    | minus => exact hu.head.1 (congrArg List.head? (List.cons.inj h).2).symm

end ReflectCalc.Double
