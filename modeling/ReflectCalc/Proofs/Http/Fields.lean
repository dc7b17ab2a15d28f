import ReflectCalc.Http.Fields
import ReflectCalc.Proofs.Text.Pieces

/-!
# Fields as a map

Fields that were put in one after the other are a map: under each name stands the value of the last
pair with this name, once, and there is nothing else.

* `Fields.LastOf` is what it means for a value to be the last one under a name;
* `Fields.get?_ofList_iff` and `Fields.mem_ofList_iff` — the values of a list of pairs are the last
  ones, for whoever looks a name up and for whoever goes through all fields;
* `Fields.get?_insertAll` — what is found after some fields have been overwritten by others;
* `Fields.readLine?_colon` — a name and a value are read off their line;
* `Fields.Names` is what it means for a line to name a value, and `Fields.ofLines_iff` — the reader
  takes just the named values off some lines (`Fields.OfLines`), in their order.
-/

namespace ReflectCalc.Fields

variable {fields : Fields} {pairs : List (Text × Text)} {name value n v : Text}

/-! ### The last value of a name -/

/-- The value of the last pair with this name. -/
def LastOf (pairs : List (Text × Text)) (name value : Text) : Prop :=
  ∃ front back, pairs = front ++ (name, value) :: back ∧ ∀ p ∈ back, p.1 ≠ name

theorem not_lastOf_nil : ¬ LastOf [] name value := by
  rintro ⟨front, back, h, -⟩
  exact absurd h.symm (by simp)

/-- A pair in front of others has the last value only if none of them has its name. -/
theorem lastOf_cons : LastOf ((n, v) :: pairs) name value ↔
    LastOf pairs name value ∨ (n = name ∧ v = value ∧ ∀ p ∈ pairs, p.1 ≠ name) := by
  constructor
  · rintro ⟨front, back, h, hback⟩
    cases front with
    | nil =>
      obtain ⟨hp, rfl⟩ := List.cons.inj h
      obtain ⟨rfl, rfl⟩ := Prod.mk.inj hp
      exact .inr ⟨rfl, rfl, hback⟩
    | cons p front => exact .inl ⟨front, back, (List.cons.inj h).2, hback⟩
  · rintro (⟨front, back, rfl, hback⟩ | ⟨rfl, rfl, hpairs⟩)
    · exact ⟨(n, v) :: front, back, rfl, hback⟩
    · exact ⟨[], pairs, rfl, hpairs⟩

/-! ### Looking a name up -/

theorem get?_cons :
    get? ((n, v) :: fields) name = if n = name then some v else get? fields name := by
  unfold get?
  rw [List.find?_cons]
  by_cases h : n = name
  · rw [if_pos h, beq_iff_eq.2 h]
    rfl
  · rw [if_neg h, beq_eq_false_iff_ne.2 h]

/-- Putting a value in changes what is found under its name and under no other. -/
theorem get?_insert :
    (fields.insert n v).get? name = if n = name then some v else fields.get? name := by
  induction fields with
  | nil => exact get?_cons
  | cons field fields ih =>
    obtain ⟨n', v'⟩ := field
    rw [insert]
    split
    · next h =>
      rw [get?_cons, get?_cons, h]
      split <;> rfl
    · next h =>
      rw [get?_cons, get?_cons, ih]
      -- a name cannot be both the one that is passed over and the one that is put in
      by_cases hn : n' = name
      · rw [if_pos hn, if_neg fun e => h (hn.trans e.symm), if_pos hn]
      · rw [if_neg hn, if_neg hn]

theorem get?_insertAll_iff : (fields.insertAll pairs).get? name = some value ↔
    LastOf pairs name value ∨ ((∀ p ∈ pairs, p.1 ≠ name) ∧ fields.get? name = some value) := by
  induction pairs generalizing fields with
  | nil => simp [insertAll, not_lastOf_nil]
  | cons p pairs ih =>
    obtain ⟨n, v⟩ := p
    have hrest : insertAll fields ((n, v) :: pairs) = (fields.insert n v).insertAll pairs := rfl
    rw [hrest, ih, lastOf_cons, get?_insert, List.forall_mem_cons]
    -- the first pair counts only under its own name
    by_cases hn : n = name
    · subst hn
      simp only [if_true, Option.some_inj, ne_eq, not_true_eq_false, false_and, or_false, true_and]
      exact or_congr_right and_comm
    · simp only [hn, if_false, false_and, or_false, ne_eq, not_false_eq_true, true_and]

/-- **Under each name stands the last value.** -/
theorem get?_ofList_iff : (ofList pairs).get? name = some value ↔ LastOf pairs name value := by
  unfold ofList
  rw [get?_insertAll_iff]
  exact or_iff_left fun h => absurd h.2 (by simp [get?])

/-- **Fields that are overwritten by others** have the value of the others under each of their
names, and keep their own under every other name. -/
theorem get?_insertAll (fields : Fields) (pairs : List (Text × Text)) (name : Text) :
    (fields.insertAll pairs).get? name = ((ofList pairs).get? name).or (fields.get? name) := by
  induction pairs generalizing fields with
  | nil => rfl
  | cons p pairs ih =>
    obtain ⟨n, v⟩ := p
    have hfirst : (fields.insert n v).get? name
        = ((insert n v []).get? name).or (fields.get? name) := by
      rw [get?_insert, get?_insert]
      split <;> rfl
    calc (fields.insertAll ((n, v) :: pairs)).get? name
        = ((fields.insert n v).insertAll pairs).get? name := rfl
      _ = ((ofList pairs).get? name).or ((fields.insert n v).get? name) := ih (fields.insert n v)
      _ = ((ofList pairs).get? name).or (((insert n v []).get? name).or (fields.get? name)) := by
          rw [hfirst]
      _ = (((ofList pairs).get? name).or ((insert n v []).get? name)).or (fields.get? name) :=
          Option.or_assoc.symm
      _ = (((insert n v []).insertAll pairs).get? name).or (fields.get? name) := by
          rw [ih (insert n v [])]
      _ = ((ofList ((n, v) :: pairs)).get? name).or (fields.get? name) := rfl

/-! ### Going through all fields -/

theorem mem_names_insert (h : name ∈ (fields.insert n v).map Prod.fst) :
    name = n ∨ name ∈ fields.map Prod.fst := by
  induction fields with
  | nil => exact .inl (List.mem_singleton.1 h)
  | cons field fields ih =>
    obtain ⟨n', v'⟩ := field
    rw [insert] at h
    split at h
    · rcases List.mem_cons.1 h with h | h
      · exact .inl h
      · exact .inr (List.mem_cons_of_mem _ h)
    · rcases List.mem_cons.1 h with h | h
      · exact .inr (h ▸ List.mem_cons_self)
      · exact (ih h).imp_right (List.mem_cons_of_mem _)

/-- A name stands in one place only. -/
theorem nodup_names_insert (h : (fields.map Prod.fst).Nodup) :
    ((fields.insert n v).map Prod.fst).Nodup := by
  induction fields with
  | nil => exact List.nodup_cons.2 ⟨List.not_mem_nil, List.nodup_nil⟩
  | cons field fields ih =>
    obtain ⟨n', v'⟩ := field
    obtain ⟨hn', hfields⟩ := List.nodup_cons.1 h
    rw [insert]
    split
    · next hn =>
      subst hn
      exact List.nodup_cons.2 ⟨hn', hfields⟩
    · next hn =>
      refine List.nodup_cons.2 ⟨fun hmem => ?_, ih hfields⟩
      rcases mem_names_insert hmem with e | hmem
      · exact hn e
      · exact hn' hmem

theorem nodup_names_insertAll (h : (fields.map Prod.fst).Nodup) :
    ((fields.insertAll pairs).map Prod.fst).Nodup := by
  induction pairs generalizing fields with
  | nil => exact h
  | cons p pairs ih => exact ih (nodup_names_insert h)

/-- Where each name stands once, the fields are what can be looked up. -/
theorem mem_iff_get? (h : (fields.map Prod.fst).Nodup) :
    (name, value) ∈ fields ↔ fields.get? name = some value := by
  induction fields with
  | nil => simp [get?]
  | cons field fields ih =>
    obtain ⟨n', v'⟩ := field
    obtain ⟨hn', hfields⟩ := List.nodup_cons.1 h
    rw [get?_cons, List.mem_cons, ih hfields, Prod.mk.injEq]
    by_cases hn : n' = name
    · subst hn
      -- the name does not stand among the others
      have hnone : get? fields n' ≠ some value := by
        intro hget
        exact hn' (List.mem_map.2 ⟨_, (ih hfields).2 hget, rfl⟩)
      rw [if_pos rfl, or_iff_left hnone, Option.some_inj]
      exact ⟨fun e => e.2.symm, fun e => ⟨rfl, e.symm⟩⟩
    · rw [if_neg hn]
      exact or_iff_right fun e => hn e.1.symm

/-- **The fields of a list of pairs are the last value of each name, and nothing else.** -/
theorem mem_ofList_iff : (name, value) ∈ ofList pairs ↔ LastOf pairs name value := by
  have hnodup : ((ofList pairs).map Prod.fst).Nodup :=
    @nodup_names_insertAll [] pairs List.nodup_nil
  rw [mem_iff_get? hnodup, get?_ofList_iff]

/-! ### Reading a line -/

/-- A name comes back from its line as it is, and a value without the white space around it. -/
theorem readLine?_colon (hne : name ≠ []) (htrimmed : Text.Trimmed name) (hcolon : ':' ∉ name)
    (value : Text) : readLine? (name ++ ": " ++ value) = some (name, value.trim) := by
  have hline : name ++ (": " : Text) ++ value = name ++ ':' :: ([' '] ++ value) := by simp
  have hblank : Text.Blank [' '] := by decide
  unfold readLine?
  rw [hline, Text.splitOnce_append hcolon]
  change (if name.trim = [] then none
    else some (name.trim, Text.trim ([' '] ++ value))) = some (name, value.trim)
  rw [Text.trim_append_left hblank, Text.trim_of_trimmed htrimmed, if_neg hne]

/-- A line without a colon names no field. -/
theorem readLine?_of_not_mem {line : Text} (h : ':' ∉ line) : readLine? line = none := by
  unfold readLine?
  rw [Text.splitOnce_of_not_mem h]
  rfl

/-- What stands before the first colon of the line is the name, what stands behind it the value,
each without the white space around it. -/
def Names (line name value : Text) : Prop :=
  name ≠ [] ∧ ∃ front back : Text, ':' ∉ front ∧ line = front ++ ':' :: back ∧
    front.trim = name ∧ back.trim = value

/-- The values that some lines name, in the order of the lines. -/
inductive OfLines : List Text → Fields → Prop where
  /-- There is no line. -/
  | nil : OfLines [] []
  /-- The first line names a value. -/
  | named {line name value : Text} {lines : List Text} {fields : Fields}
      (hline : Names line name value) (hlines : OfLines lines fields) :
      OfLines (line :: lines) ((name, value) :: fields)
  /-- The first line names none. -/
  | unnamed {line : Text} {lines : List Text} {fields : Fields}
      (hline : ∀ name value, ¬ Names line name value) (hlines : OfLines lines fields) :
      OfLines (line :: lines) fields

theorem readLine?_eq_some_iff {line : Text} :
    readLine? line = some (name, value) ↔ Names line name value := by
  unfold readLine? Names
  simp only [Option.bind_eq_bind, Option.bind_eq_some_iff, Prod.exists, Text.splitOnce_eq_some_iff]
  constructor
  · rintro ⟨front, back, ⟨hfront, hline⟩, h⟩
    obtain ⟨hne, h⟩ := Option.ite_none_left_eq_some.1 h
    cases h
    exact ⟨hne, front, back, hfront, hline, rfl, rfl⟩
  · rintro ⟨hne, front, back, hfront, hline, rfl, rfl⟩
    exact ⟨front, back, ⟨hfront, hline⟩, if_neg hne⟩

theorem readLine?_eq_none_iff {line : Text} :
    readLine? line = none ↔ ∀ name value, ¬ Names line name value := by
  simp only [Option.eq_none_iff_forall_ne_some, Prod.forall, ne_eq, readLine?_eq_some_iff]

/-- **The values that are read off some lines are those that the lines name.** -/
theorem ofLines_iff {lines : List Text} :
    OfLines lines fields ↔ lines.filterMap readLine? = fields := by
  constructor
  · intro h
    induction h with
    | nil => rfl
    | named hline hlines ih =>
      rw [List.filterMap_cons_some (readLine?_eq_some_iff.2 hline), ih]
    | unnamed hline hlines ih =>
      rw [List.filterMap_cons_none (readLine?_eq_none_iff.2 hline), ih]
  · rintro rfl
    induction lines with
    | nil => exact .nil
    | cons line lines ih =>
      cases hline : readLine? line with
      | none =>
        rw [List.filterMap_cons_none hline]
        exact .unnamed (readLine?_eq_none_iff.1 hline) ih
      | some field =>
        rw [List.filterMap_cons_some hline]
        exact .named (readLine?_eq_some_iff.1 hline) ih

end ReflectCalc.Fields
