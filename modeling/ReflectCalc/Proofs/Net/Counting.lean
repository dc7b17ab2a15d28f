import Mathlib.Data.Set.Card

/-!
# Histories

What is given out in the course of a history, such as receivers of a channel or guards of
connections, has a number in the order in which it was given out.

* `exists_append_of_lt_countP` goes from the number to the step at which it was given out;
* `countP_eq_ncard` counts what has a property by its numbers;
* `foldlM_induction` leads a property along a history of which every step has to be possible.
-/

namespace ReflectCalc.Counting

variable {α : Type} {p : α → Bool} {l : List α} {i : Nat}

/-- The step of a kind that has a number among those of its kind. -/
theorem exists_append_of_lt_countP (h : i < l.countP p) :
    ∃ before a after, l = before ++ a :: after ∧ p a = true ∧ before.countP p = i := by
  induction l generalizing i with
  | nil => cases h
  | cons b l ih =>
    by_cases hb : p b = true
    · rw [List.countP_cons_of_pos hb] at h
      cases i with
      | zero => exact ⟨[], b, l, rfl, hb, rfl⟩
      | succ i =>
        obtain ⟨before, a, after, rfl, ha, hcount⟩ := ih (Nat.lt_of_succ_lt_succ h)
        refine ⟨b :: before, a, after, rfl, ha, ?_⟩
        rw [List.countP_cons_of_pos hb, hcount]
    · rw [List.countP_cons_of_neg hb] at h
      obtain ⟨before, a, after, rfl, ha, hcount⟩ := ih h
      refine ⟨b :: before, a, after, rfl, ha, ?_⟩
      rw [List.countP_cons_of_neg hb, hcount]

theorem finite_setOf_any (p : α → Bool) (l : List α) : {i : Nat | (l[i]?).any p = true}.Finite := by
  apply (Finset.range l.length).finite_toSet.subset
  intro i hi
  rw [Finset.mem_coe, Finset.mem_range]
  by_contra hge
  rw [Set.mem_ofPred_eq, List.getElem?_eq_none (Nat.le_of_not_lt hge)] at hi
  cases hi

theorem any_getElem?_concat (p : α → Bool) (l : List α) (a : α) (i : Nat) :
    ((l ++ [a])[i]?).any p = true ↔ (l[i]?).any p = true ∨ i = l.length ∧ p a = true := by
  rcases Nat.lt_trichotomy i l.length with hlt | rfl | hgt
  · simp [List.getElem?_append_left hlt, hlt.ne]
  · simp
  · simp [List.getElem?_eq_none, hgt.le, hgt.ne', Nat.succ_le_of_lt hgt]

/-- How many there are of something in a list is how many places have it. -/
theorem countP_eq_ncard (p : α → Bool) (l : List α) :
    l.countP p = {i : Nat | (l[i]?).any p = true}.ncard := by
  -- the last place is taken off, so the places before it keep their numbers
  induction l using List.reverseRecOn with
  | nil => simp
  | append_singleton l a ih =>
    have hnew : l.length ∉ {i : Nat | (l[i]?).any p = true} := by simp
    have hset : {i : Nat | ((l ++ [a])[i]?).any p = true} =
        if p a then insert l.length {i : Nat | (l[i]?).any p = true}
        else {i : Nat | (l[i]?).any p = true} := by
      ext i
      rw [Set.mem_ofPred_eq, any_getElem?_concat]
      split
      · next ha => simp [ha, or_comm]
      · next ha => simp [ha]
    rw [List.countP_append, ih, hset]
    split
    · next ha =>
      rw [Set.ncard_insert_of_notMem hnew (finite_setOf_any p l), List.countP_singleton, if_pos ha]
    · next ha => rw [List.countP_singleton, if_neg ha]; rfl

/-- **What every step carries on holds after a history.** The property may speak of the steps taken so
far. -/
theorem foldlM_induction {σ : Type} {step : σ → α → Option σ} {P : List α → σ → Prop} {x y : σ}
    (hstart : P [] x)
    (hstep : ∀ done a x₁ x₂, P done x₁ → step x₁ a = some x₂ → P (done ++ [a]) x₂)
    (hrun : l.foldlM step x = some y) : P l y := by
  -- the induction is on the steps still to take, after any that have been taken
  suffices h : ∀ done x, P done x → l.foldlM step x = some y → P (done ++ l) y from
    h [] x hstart hrun
  clear hstart hrun
  induction l with
  | nil =>
    intro done x hdone hrun
    obtain rfl := Option.some.inj hrun
    rwa [List.append_nil]
  | cons a l ih =>
    intro done x hdone hrun
    rw [List.foldlM_cons] at hrun
    obtain ⟨x₁, ha, hrest⟩ := Option.bind_eq_some_iff.1 hrun
    have h := ih (done ++ [a]) x₁ (hstep done a x x₁ hdone ha) hrest
    rwa [List.append_assoc] at h

end ReflectCalc.Counting
