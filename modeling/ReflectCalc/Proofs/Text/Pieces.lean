import ReflectCalc.Text.Blank

/-!
# Trimming and cutting texts

What the readers of texts do to a text that a writer has put together. All statements are about a
text in which something stands at a known place, and they follow the walk from the front:

* `trim_append_left`, `trim_append_right` — white space that is added at an end is trimmed away;
* `trimStart_append_cons`, `trimEnd_append_cons` — trimming does not get past a character that is
  no white space;
* `exists_eq_trim_between` — and what it takes away is white space;
* `splitOnce_append`, `splitLast_append`, `splitAll_append` — cutting at a character gives back the
  parts around it, as long as it does not occur in the part that is cut off first, and
  `splitOnce_eq_some_iff` — these are the only parts that cutting once can give;
* `splitAll_append_cons` — cutting everywhere can be done on both sides of an occurrence alone.
-/

namespace ReflectCalc.Text

/-- A text of nothing but white space. -/
def Blank (t : Text) : Prop := ∀ c ∈ t, isBlank c = true

-- the instances are named, since going through the text is not the only way to decide these
instance (t : Text) : Decidable (Blank t) := List.decidableBAll (isBlank · = true) t

instance (t : Text) : Decidable (Trimmed t) :=
  @instDecidableAnd _ _ (Option.decidableForallMem t.head?) (Option.decidableForallMem t.getLast?)

variable {c : Char} {l r t w : Text}

/-! ### White space -/

theorem Blank.append (hl : Blank l) (hr : Blank r) : Blank (l ++ r) := by
  intro c hc
  rcases List.mem_append.1 hc with h | h
  · exact hl c h
  · exact hr c h

/-- A character that is no white space is in no blank text. -/
theorem Blank.not_mem (hw : Blank w) (hc : isBlank c = false) : c ∉ w := by
  intro h
  rw [hw c h] at hc
  exact absurd hc (by simp)

/-! ### Trimming -/

theorem trimStart_append_left (hw : Blank w) : trimStart (w ++ t) = trimStart t :=
  List.dropWhile_append_of_pos hw

theorem trimEnd_append_right (hw : Blank w) : trimEnd (t ++ w) = trimEnd t := by
  unfold trimEnd
  rw [List.reverse_append, List.dropWhile_append_of_pos]
  intro c hc
  exact hw c (List.mem_reverse.1 hc)

theorem trimStart_of_blank (hw : Blank w) : trimStart w = [] := by
  rw [← List.append_nil w, trimStart_append_left hw]
  rfl

/-- Trimming at the front stops at a character that is no white space. -/
theorem trimStart_append_cons (hc : isBlank c = false) :
    trimStart (l ++ c :: r) = trimStart l ++ c :: r := by
  unfold trimStart
  rw [List.dropWhile_append]
  split
  · next h =>
    rw [List.isEmpty_iff.1 h, List.dropWhile_cons_of_neg (by simp [hc])]
    rfl
  · rfl

/-- Trimming at the back stops at a character that is no white space. -/
theorem trimEnd_append_cons (hc : isBlank c = false) :
    trimEnd (l ++ c :: r) = l ++ c :: trimEnd r := by
  have h : (l ++ c :: r).reverse = r.reverse ++ c :: l.reverse := by simp
  have hstart := trimStart_append_cons (l := r.reverse) (r := l.reverse) hc
  unfold trimStart at hstart
  unfold trimEnd
  rw [h, hstart]
  simp

theorem trimStart_trimStart : trimStart (trimStart t) = trimStart t := by
  induction t with
  | nil => rfl
  | cons a t ih =>
    by_cases ha : isBlank a = true
    · have : trimStart (a :: t) = trimStart t := List.dropWhile_cons_of_pos ha
      rw [this, ih]
    · have : trimStart (a :: t) = a :: t := List.dropWhile_cons_of_neg ha
      rw [this, this]

theorem trim_trimStart : trim (trimStart t) = trim t := by
  unfold trim
  rw [trimStart_trimStart]

theorem trim_append_left (hw : Blank w) : trim (w ++ t) = trim t := by
  unfold trim
  rw [trimStart_append_left hw]

theorem trim_append_right (hw : Blank w) : trim (t ++ w) = trim t := by
  unfold trim
  by_cases ht : trimStart t = []
  · -- nothing but white space, so nothing is left with or without `w`
    have hboth : trimStart (t ++ w) = trimStart w := by
      unfold trimStart at ht ⊢
      rw [List.dropWhile_append, ht]
      rfl
    rw [hboth, ht, trimStart_of_blank hw]
  · have hkeep : trimStart (t ++ w) = trimStart t ++ w := by
      unfold trimStart at ht ⊢
      rw [List.dropWhile_append, if_neg (by simpa using ht)]
    rw [hkeep, trimEnd_append_right hw]

theorem trimmed_of_forall (h : ∀ c ∈ t, isBlank c = false) : Trimmed t :=
  ⟨fun c hc => h c (List.mem_of_mem_head? hc), fun c hc => h c (List.mem_of_getLast? hc)⟩

theorem trim_of_trimmed (ht : Trimmed t) : trim t = t := by
  have hstart : trimStart t = t := by
    cases t with
    | nil => rfl
    | cons a t => exact List.dropWhile_cons_of_neg (by simp [ht.1 a rfl])
  have hend : trimEnd t = t := by
    rcases List.eq_nil_or_concat t with rfl | ⟨s, a, rfl⟩
    · rfl
    · have ha : isBlank a = false := ht.2 a (by simp)
      rw [List.concat_eq_append, trimEnd_append_cons ha]
      rfl
  unfold trim
  rw [hstart, hend]

/-- White space around a trimmed text is trimmed away again. -/
theorem trim_between {v : Text} (hv : Blank v) (ht : Trimmed t) (hw : Blank w) :
    trim (v ++ t ++ w) = t := by
  rw [trim_append_right hw, trim_append_left hv, trim_of_trimmed ht]

/-- What trimming takes off the front is white space, and it stops before a character that is
none. -/
theorem exists_eq_append_trimStart (t : Text) :
    ∃ w, Blank w ∧ t = w ++ trimStart t ∧ ∀ c ∈ (trimStart t).head?, isBlank c = false := by
  refine ⟨t.takeWhile isBlank, ?_, List.takeWhile_append_dropWhile.symm, ?_⟩
  · intro c hc
    exact List.all_eq_true.1 List.all_takeWhile c hc
  · intro c hc
    have hstop := List.head?_dropWhile_not isBlank t
    unfold trimStart at hc
    rw [hc] at hstop
    exact hstop

/-- **What trimming does.** The text is white space, a trimmed text and white space. -/
theorem exists_eq_trim_between (t : Text) :
    ∃ v w, Blank v ∧ Trimmed (trim t) ∧ Blank w ∧ t = v ++ trim t ++ w := by
  obtain ⟨v, hv, ht, hhead⟩ := exists_eq_append_trimStart t
  -- the back is trimmed as the front is, in the reversed text
  obtain ⟨w, hw, hreverse, hlast⟩ := exists_eq_append_trimStart (trimStart t).reverse
  have hback : trimStart t = trim t ++ w.reverse := by
    have h := congrArg List.reverse hreverse
    rwa [List.reverse_append, List.reverse_reverse] at h
  refine ⟨v, w.reverse, hv, ⟨?_, ?_⟩, ?_, ?_⟩
  · intro c hc
    refine hhead c ?_
    rw [hback, List.head?_append, Option.mem_def.1 hc]
    rfl
  · intro c hc
    refine hlast c ?_
    rw [← List.getLast?_reverse]
    exact hc
  · intro c hc
    exact hw c (List.mem_reverse.1 hc)
  · rw [List.append_assoc, ← hback]
    exact ht

theorem trimmed_trim (t : Text) : Trimmed (trim t) := by
  obtain ⟨v, w, -, h, -, -⟩ := exists_eq_trim_between t
  exact h

/-- Nothing is left just of white space. -/
theorem trim_eq_nil_iff : trim t = [] ↔ Blank t := by
  constructor
  · intro h
    obtain ⟨v, w, hv, -, hw, ht⟩ := exists_eq_trim_between t
    rw [h, List.append_nil] at ht
    exact ht ▸ hv.append hw
  · intro h
    rw [← List.append_nil t, trim_append_left h]
    rfl

theorem subset_trimStart : trimStart t ⊆ t := List.dropWhile_subset _

theorem subset_trimEnd : trimEnd t ⊆ t := by
  intro c hc
  exact List.mem_reverse.1 (List.dropWhile_subset _ (List.mem_reverse.1 hc))

theorem subset_trim : trim t ⊆ t := fun _ hc => subset_trimStart (subset_trimEnd hc)

/-! ### Dropping a character -/

/-- It does not matter how many of the character are dropped from the front. -/
theorem dropLeading_replicate_append (n : Nat) :
    dropLeading c (List.replicate n c ++ t) = dropLeading c t :=
  List.dropWhile_append_of_pos fun _ h => by simp [List.eq_of_mem_replicate h]

/-- It does not matter how many of the character are dropped from the back. -/
theorem dropTrailing_append_replicate (n : Nat) :
    dropTrailing c (t ++ List.replicate n c) = dropTrailing c t := by
  unfold dropTrailing
  rw [List.reverse_append, List.reverse_replicate]
  exact congrArg List.reverse (dropLeading_replicate_append n)

theorem subset_dropLeading : dropLeading c t ⊆ t := List.dropWhile_subset _

theorem subset_dropTrailing : dropTrailing c t ⊆ t := by
  intro a ha
  exact List.mem_reverse.1 (List.dropWhile_subset _ (List.mem_reverse.1 ha))

/-! ### Cutting at a character -/

theorem splitOnce_append (h : c ∉ l) : splitOnce c (l ++ c :: r) = some (l, r) := by
  induction l with
  | nil => simp [splitOnce]
  | cons a l ih =>
    have ha : a ≠ c := (List.ne_of_not_mem_cons h).symm
    have hl : c ∉ l := List.not_mem_of_not_mem_cons h
    rw [List.cons_append, splitOnce, if_neg ha, ih hl]
    rfl

theorem splitOnce_of_not_mem (h : c ∉ t) : splitOnce c t = none := by
  induction t with
  | nil => rfl
  | cons a t ih =>
    have ha : a ≠ c := (List.ne_of_not_mem_cons h).symm
    have ht : c ∉ t := List.not_mem_of_not_mem_cons h
    rw [splitOnce, if_neg ha, ih ht]
    rfl

theorem splitOnce_eq_some_iff : splitOnce c t = some (l, r) ↔ c ∉ l ∧ t = l ++ c :: r := by
  constructor
  · intro h
    by_cases hc : c ∈ t
    · obtain ⟨front, back, rfl, hfront⟩ := List.eq_append_cons_of_mem hc
      rw [splitOnce_append hfront] at h
      cases h
      exact ⟨hfront, rfl⟩
    · rw [splitOnce_of_not_mem hc] at h
      cases h
  · rintro ⟨hl, rfl⟩
    exact splitOnce_append hl

theorem splitLast_eq_none (h : c ∉ t) : splitLast c t = none := by
  induction t with
  | nil => rfl
  | cons a t ih =>
    have ha : a ≠ c := (List.ne_of_not_mem_cons h).symm
    have ht : c ∉ t := List.not_mem_of_not_mem_cons h
    rw [splitLast, ih ht]
    simp [ha]

theorem splitLast_append (h : c ∉ r) : splitLast c (l ++ c :: r) = some (l, r) := by
  induction l with
  | nil =>
    rw [List.nil_append, splitLast, splitLast_eq_none h]
    simp
  | cons a l ih => rw [List.cons_append, splitLast, ih]

theorem splitLast_eq_none_iff : splitLast c t = none ↔ c ∉ t := by
  refine ⟨fun h hc => ?_, splitLast_eq_none⟩
  -- the last occurrence is the first one from behind
  obtain ⟨back, front, hreverse, hback⟩ := List.eq_append_cons_of_mem (List.mem_reverse.2 hc)
  have ht : t = front.reverse ++ c :: back.reverse := by
    simpa using congrArg List.reverse hreverse
  rw [ht, splitLast_append (by simpa using hback)] at h
  cases h

theorem splitAll_of_not_mem (h : c ∉ t) : splitAll c t = [t] := by
  induction t with
  | nil => rfl
  | cons a t ih =>
    have ha : a ≠ c := (List.ne_of_not_mem_cons h).symm
    have ht : c ∉ t := List.not_mem_of_not_mem_cons h
    rw [splitAll, if_neg ha, ih ht]

theorem splitAll_ne_nil (c : Char) (t : Text) : splitAll c t ≠ [] := by
  cases t with
  | nil => exact List.cons_ne_nil [] []
  | cons a t =>
    rw [splitAll]
    split
    · exact List.cons_ne_nil [] _
    · cases splitAll c t <;> exact List.cons_ne_nil _ _

/-- The pieces around an occurrence are those of the text before it and those of the text behind
it. -/
theorem splitAll_append_cons (c : Char) (l r : Text) :
    splitAll c (l ++ c :: r) = splitAll c l ++ splitAll c r := by
  induction l with
  | nil =>
    show splitAll c (c :: r) = [] :: splitAll c r
    rw [splitAll, if_pos rfl]
  | cons a l ih =>
    rw [List.cons_append, splitAll, splitAll, ih]
    split
    · rfl
    · -- `a` goes in front of the first piece, which is one of the text before
      cases hl : splitAll c l with
      | nil => exact absurd hl (splitAll_ne_nil c l)
      | cons piece pieces => rfl

theorem splitAll_append (h : c ∉ l) : splitAll c (l ++ c :: r) = l :: splitAll c r := by
  induction l with
  | nil => simp [splitAll]
  | cons a l ih =>
    have ha : a ≠ c := (List.ne_of_not_mem_cons h).symm
    have hl : c ∉ l := List.not_mem_of_not_mem_cons h
    rw [List.cons_append, splitAll, if_neg ha, ih hl]

end ReflectCalc.Text
