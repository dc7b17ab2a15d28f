import ReflectCalc.Catalog.Basic

/-!
# Looking types up

What is found under a name after a type has been registered, and after the catalog has been
narrowed. A catalog is seen through `Catalog.find?` only: each operation has its equation there, and
none of them needs the order in which the declarations are kept.

* `Catalog.find?_register` — registering a type changes what is found under its name and no other;
* `Catalog.find?_retain` — narrowing changes what is found under the names that are left out;
* `Catalog.mem_names_iff` — the names that are listed are those under which something is found.
-/

namespace ReflectCalc.Catalog

variable {c : Catalog} {d : TypeDecl} {allowed : List Text} {name : Text}

/-- What is found under a name is registered, and has the name. -/
theorem find?_eq_some (h : c.find? name = some d) : d ∈ c.types ∧ d.name = name :=
  ⟨List.mem_of_find?_eq_some h, by simpa using List.find?_some h⟩

/-- What is registered is found under its name, since no name is registered twice. -/
theorem find?_of_mem (h : d ∈ c.types) : c.find? d.name = some d := by
  obtain ⟨before, after, hsplit⟩ := List.append_of_mem h
  have hascending := c.ascending
  rw [hsplit, List.pairwise_append] at hascending
  refine List.find?_eq_some_iff_append.2 ⟨by simp, before, after, hsplit, fun e he => ?_⟩
  -- what stands before it has a lesser name
  have hlt := hascending.2.2 e he d List.mem_cons_self
  have hne : e.name ≠ d.name := fun heq => by simp [heq, Text.not_precedes_self] at hlt
  simpa using hne

/-- A name is listed if something is found under it. -/
theorem mem_names_iff : name ∈ c.names ↔ ∃ d, c.find? name = some d := by
  constructor
  · intro h
    obtain ⟨d, hd, rfl⟩ := List.mem_map.1 h
    cases hfind : c.find? d.name with
    | some d' => exact ⟨d', rfl⟩
    | none => exact absurd (List.find?_eq_none.1 hfind d hd) (by simp)
  · rintro ⟨d, hd⟩
    obtain ⟨hmem, rfl⟩ := find?_eq_some hd
    exact List.mem_map_of_mem hmem

/-! ### Registering -/

theorem find?_insertInto (d : TypeDecl) (l : List TypeDecl) (name : Text) :
    (insertInto d l).find? (fun e => e.name == name)
      = if d.name = name then some d else l.find? fun e => e.name == name := by
  induction l with
  | nil => by_cases h : d.name = name <;> simp [insertInto, h]
  | cons e l ih =>
    rw [insertInto]
    split
    · -- in front of the others
      by_cases h : d.name = name <;> simp [h]
    split
    · -- in place of the one with its name
      next heq =>
      by_cases h : d.name = name
      · simp [h]
      · have he : e.name ≠ name := fun e => h (heq.trans e)
        simp [h, he]
    · -- somewhere behind `e`, which has another name
      next hne =>
      rw [List.find?_cons, ih, List.find?_cons]
      by_cases he : e.name = name
      · have hd : d.name ≠ name := fun h => hne (h.trans he.symm)
        simp [he, hd]
      · rw [beq_eq_false_iff_ne.2 he]

theorem find?_register (c : Catalog) (d : TypeDecl) (name : Text) :
    (c.register d).find? name = if d.name = name then some d else c.find? name :=
  find?_insertInto d c.types name

/-! ### Narrowing -/

theorem find?_retain_of_mem (h : name ∈ allowed) :
    (c.retain allowed).find? name = c.find? name := by
  unfold find? retain
  rw [List.find?_filter]
  congr 1
  funext d
  by_cases hd : d.name = name <;> simp [hd, h]

theorem find?_retain_of_not_mem (h : name ∉ allowed) : (c.retain allowed).find? name = none := by
  unfold find? retain
  rw [List.find?_filter, List.find?_eq_none]
  intro d _ hd
  have hboth : d.name ∈ allowed ∧ d.name = name := by simpa using hd
  exact h (hboth.2 ▸ hboth.1)

theorem find?_retain (c : Catalog) (allowed : List Text) (name : Text) :
    (c.retain allowed).find? name = if name ∈ allowed then c.find? name else none := by
  split
  · next h => exact find?_retain_of_mem h
  · next h => exact find?_retain_of_not_mem h

end ReflectCalc.Catalog
