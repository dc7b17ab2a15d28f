import ReflectCalc.Builtin.Catalog
import ReflectCalc.Proofs.Engine.QuotedValues
import ReflectCalc.Proofs.Number.Order

/-!
# Comparing doubles by a command

What a command gets from `java.lang.Double.compare`. The value is the order of the bits of the two
doubles, `Double.compare`, and `ReflectCalc.Proofs.Number.Order` says how this differs from the
documented order.

* `Builtin.run_compare` — a command that calls the method with two doubles gets their order as `-1`,
  `0` or `1`;
* `Builtin.exists_query_compare` — every two doubles that can be read are compared by some command;
* `Builtin.compare_order` is the main result.
-/

namespace ReflectCalc.Builtin

open Arguments (Plain)
open Double (Readable)

variable {raw s t : Text} {a b : Double}

/-- The query for the order of two doubles. -/
def compareQuery (s t : Text) : Query :=
  .call "java.lang.Double" "compare" [⟨.double, s⟩, ⟨.double, t⟩]

theorem read_double (h : Double.read? s = some a) :
    (RawValue.mk .double s).read = .ok (.double a) := by
  simp [RawValue.read, Argument.read?, h]

/-- The method gets both doubles and gives their order. -/
theorem run_compare (r : Readings) (hraw : Query.ofText raw = .ok (compareQuery s t))
    (ha : Double.read? s = some a) (hb : Double.read? t = some b) :
    (catalog r).run raw = .ok (.value (.int (orderingSign (a.compare b)))) := by
  have hread : [RawValue.mk .double s, ⟨.double, t⟩].mapM RawValue.read =
      .ok [.double a, .double b] := by
    simp only [List.mapM_cons, List.mapM_nil, read_double ha, read_double hb]
    rfl
  obtain ⟨-, hpasses⟩ := Catalog.passes_of_query (c := catalog r) hraw hread
  have hlogged := hpasses real _ _ rfl rfl rfl
  rw [← Catalog.runLogged_fst, hlogged]
  rfl

/-! ### The command -/

/-- The characters that a double can be written with. -/
def IsWritten (c : Char) : Prop :=
  Double.isDecimalChar c = true ∨ Double.isTypeLetter c = true ∨
    c ∈ "NaN".toList ++ "Infinity".toList

theorem isWritten_of_read? (h : Double.read? s = some a) : ∀ c ∈ s.trim, IsWritten c := by
  obtain ⟨sign, negative, body, hsign, htrim, hread⟩ := Double.exists_read?_eq s
  rw [hread] at h
  have hbody : (Double.readBody? body).isSome := by
    rw [← Option.isSome_map, h]
    rfl
  intro c hc
  rw [htrim] at hc
  rcases List.mem_append.1 hc with hc | hc
  · exact .inl (hsign.isDecimalChar c hc)
  rcases Double.cases_of_isSome_readBody? hbody with
    rfl | rfl | ⟨inner, negative', u, hinner, hu, rfl⟩
  · exact .inr (.inr (List.mem_append_left _ hc))
  · exact .inr (.inr (List.mem_append_right _ hc))
  · rcases List.mem_append.1 hc with hc | hc
    · exact .inl (hinner.isDecimalChar c hc)
    cases hu with
    | plain hu => exact .inl (hu.isDecimalChar c hc)
    | letter hu hletter =>
      rcases List.mem_append.1 hc with hc | hc
      · exact .inl (hu.isDecimalChar c hc)
      · exact .inr (.inl (List.mem_singleton.1 hc ▸ hletter))

/-- So a double needs no quotation. -/
theorem plain_trim_of_read? (h : Double.read? s = some a) : Plain s.trim where
  trimmed := Text.trimmed_trim s
  no_comma := fun hc => by
    rcases isWritten_of_read? h _ hc with hc | hc | hc
    · cases hc
    · cases hc
    · exact absurd hc (by decide)
  no_mark := fun c hc => by
    rw [Bool.eq_false_iff]
    intro hmark
    have hquote : c = '"' ∨ c = '\'' := by simpa [Arguments.isQuoteMark] using hmark
    rcases isWritten_of_read? h c hc with hc | hc | hc
    · rcases hquote with rfl | rfl <;> cases hc
    · rcases hquote with rfl | rfl <;> cases hc
    · rcases hquote with rfl | rfl <;> exact absurd hc (by decide)

theorem read?_trim (s : Text) : Double.read? s.trim = Double.read? s := by
  unfold Double.read?
  rw [Text.trim_of_trimmed (Text.trimmed_trim s)]

theorem exists_query_compare (ha : a.Readable) (hb : b.Readable) :
    ∃ raw s t, Query.ofText raw = .ok (compareQuery s t) ∧ Double.read? s = some a ∧
      Double.read? t = some b := by
  obtain ⟨s, hs⟩ := ha
  obtain ⟨t, ht⟩ := hb
  have hps := plain_trim_of_read? hs
  have hpt := plain_trim_of_read? ht
  have hp : Plain "java.lang.Double" ∧ Plain "compare" ∧ Plain "double" := by decide
  let c : Command := ⟨"binaryInvoke",
    ["java.lang.Double", "compare", "double", s.trim, "double", t.trim]⟩
  have htrimmed : ∀ x ∈ c.arguments, x.Trimmed := by
    simp only [c, List.forall_mem_cons]
    exact ⟨hp.1.trimmed, hp.2.1.trimmed, hp.2.2.trimmed, hps.trimmed, hp.2.2.trimmed, hpt.trimmed,
      fun _ h => nomatch h⟩
  have hsep : Arguments.Separated c.arguments :=
    hp.1.separated (hp.2.1.separated (hp.2.2.separated (hps.separated (hp.2.2.separated
      (hpt.separated .nil)))))
  have hlast : c.arguments.getLast? ≠ some [] := by
    intro h
    have hnil : t.trim = [] := Option.some.inj h
    have hnone : Double.readBody? [] = none := by decide
    unfold Double.read? at ht
    rw [hnil] at ht
    cases hnone.symm.trans ht
  have hspaced : Command.Renders c.spaced c :=
    Command.renders_spaced c (Operation.trimmed_name .invokeBinary) htrimmed (List.cons_ne_nil _ _)
  have hparse : Command.parse c.spaced = .ok c :=
    Command.parse_of_renders hspaced (Operation.not_mem_name .invokeBinary) hsep hlast
  have hdouble : Kind.ofToken? "double" = some .double := by decide
  exact ⟨c.spaced, s.trim, t.trim,
    Query.ofText_eq_ok_iff.2 ⟨c, .invokeBinary, hparse, rfl, .binary hdouble hdouble⟩,
    (read?_trim s).trans hs, (read?_trim t).trans ht⟩

/-! ### The order that a command gets -/

/-- **A command gets the order of the bits.** It is a total order of all doubles, in which no two
are equal, and of the doubles that can be read it is the documented order but for a NaN with a sign:
the bits put this one below everything else, and the documented order puts it above all numbers and
next to the other NaN. -/
theorem compare_order (r : Readings) :
    (∀ raw s t a b, Query.ofText raw = .ok (compareQuery s t) → Double.read? s = some a →
      Double.read? t = some b →
      (catalog r).run raw = .ok (.value (.int (orderingSign (a.compare b))))) ∧
    (∀ a b : Double, a.Readable → b.Readable →
      (∃ raw s t, Query.ofText raw = .ok (compareQuery s t) ∧ Double.read? s = some a ∧
        Double.read? t = some b) ∧
      (a.compare b = a.order b ↔ a.isSignedNaN = b.isSignedNaN) ∧
      (a.isSignedNaN = true → b.isSignedNaN = false → a.compare b = .lt)) ∧
    ∀ a b c : Double, b.compare a = (a.compare b).swap ∧ (a.compare b = .eq ↔ a = b) ∧
      (a.compare b ≠ .gt → b.compare c ≠ .gt → a.compare c ≠ .gt) := by
  refine ⟨fun raw s t a b hraw ha hb => run_compare r hraw ha hb, fun a b ha hb => ?_,
    fun a b c => ?_⟩
  · refine ⟨exists_query_compare ha hb, Double.compare_eq_order_iff ha hb, fun hsa hsb => ?_⟩
    rw [Double.compare_of_readable ha hb, hsa, hsb]
    rfl
  · exact ⟨(Double.compare_swap a b).symm, Double.compare_eq_eq_iff, Double.compare_trans⟩

/-- The zeros are told apart, the NaN with a sign is below the other one, and the infinities are
compared by way of a zero. -/
theorem compare_order_zeros :
    (catalog ⟨⟨0⟩, 0, 0⟩).run "binaryInvoke(java.lang.Double, compare, double, -0.0, double, 0)" =
      .ok (.value (.int (-1))) ∧
    Double.nan.neg.compare .nan = .lt ∧ Double.infinity.neg.compare .infinity ≠ .gt := by
  obtain ⟨hrun, hread, hlaws⟩ := compare_order ⟨⟨0⟩, 0, 0⟩
  refine ⟨?_, ?_, (hlaws _ (.ofMagnitude true 0) _).2.2 (by decide) (by decide)⟩
  · exact hrun _ "-0.0" "0" (.ofMagnitude true 0) (.ofMagnitude false 0) rfl (by decide) (by decide)
  · have hsigned : Double.nan.neg.Readable := ⟨"-NaN", by decide⟩
    have hquiet : Double.nan.Readable := ⟨"NaN", by decide⟩
    exact (hread _ _ hsigned hquiet).2.2 (by decide) (by decide)

/-- Two NaNs are equal in the documented order, and a command gets `-1` for them. -/
theorem compare_signed_nan :
    (∃ a b, Double.read? "-NaN" = some a ∧ Double.read? "NaN" = some b ∧ a.isNaN = true ∧
      b.isNaN = true ∧ a.order b = .eq) ∧
    (catalog ⟨⟨0⟩, 0, 0⟩).run "binaryInvoke(java.lang.Double, compare, double, -NaN, double, NaN)" =
      .ok (.value (.int (-1))) := by
  have hsigned : Double.read? "-NaN" = some Double.nan.neg := by decide
  have hquiet : Double.read? "NaN" = some Double.nan := by decide
  constructor
  · exact ⟨_, _, hsigned, hquiet, by decide, by decide, rfl⟩
  · exact run_compare _ rfl hsigned hquiet

end ReflectCalc.Builtin
