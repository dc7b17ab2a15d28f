import ReflectCalc.Builtin.Catalog
import ReflectCalc.Engine.Basic
import ReflectCalc.Proofs.Catalog.Lookup
import ReflectCalc.Proofs.Text.Utf8

/-!
# What a catalog holds after a history

A catalog changes in two ways: a type is registered, in place of any other of its name, or the
catalog is cut down to some names. What it holds in the end is told by the history alone.

* `Catalog.Step` and `Catalog.step` are the two ways and what comes of them, and `Catalog.replay`
  goes through a list of steps;
* `Catalog.Standing` says, in terms of the history, that a declaration is still in force: it was
  registered, and no later step replaces it or leaves its name out;
* `Catalog.resolve_replay` is the main result: a catalog is the finite map from names to the
  declarations in force.

`Catalog.find?_step_iff` is what one step does to a look-up, and `Catalog.find?_replay_iff` follows
from it by induction on the steps. The types that a catalog begins with are no special case, since
they were registered one after the other as well (`Catalog.ofList_eq_replay`).
-/

namespace ReflectCalc

namespace TypeDecl

variable {d : TypeDecl} {name : Text}

theorem foldl_declare (d : TypeDecl) (members : List Member) :
    members.foldl declare d
      = ⟨d.name, d.fields ++ members.filterMap Member.field?,
          d.methods ++ members.filterMap Member.method?⟩ := by
  induction members generalizing d with
  | nil => simp
  | cons m members ih =>
    rw [List.foldl_cons, ih]
    cases m with
    | field f => simp [declare, Member.field?, Member.method?, List.filterMap_cons]
    | method m => simp [declare, Member.field?, Member.method?, List.filterMap_cons]

/-- The fields and the methods of a type are in the order in which they were declared. -/
theorem ofMembers_eq (name : Text) (members : List Member) :
    ofMembers name members
      = ⟨name, members.filterMap Member.field?, members.filterMap Member.method?⟩ := by
  unfold ofMembers
  rw [foldl_declare]
  simp [empty]

/-- Members that come to this declaration. -/
def members (d : TypeDecl) : List Member := d.fields.map .field ++ d.methods.map .method

/-- Every declaration can be made member by member. -/
theorem ofMembers_members (d : TypeDecl) : ofMembers d.name d.members = d := by
  -- no method is a field, and no field a method
  have hfield : (d.methods.map Member.method).filterMap Member.field? = [] := by
    simp [List.filterMap_eq_nil_iff, Member.field?]
  have hmethod : (d.fields.map Member.field).filterMap Member.method? = [] := by
    simp [List.filterMap_eq_nil_iff, Member.method?]
  rw [ofMembers_eq, members, List.filterMap_append, List.filterMap_append, hfield, hmethod]
  simp [List.filterMap_map, Function.comp_def, Member.field?, Member.method?]

end TypeDecl

namespace Catalog

/-! ### Steps -/

/-- What can be done to a catalog. -/
inductive Step where
  /-- A type is registered, with members that are declared in this order. -/
  | register (name : Text) (members : List Member)
  /-- The catalog is cut down to these names. -/
  | retain (allowed : List Text)

namespace Step

/-- The step puts this declaration into the catalog. -/
def Declares (d : TypeDecl) : Step → Prop
  | register name members =>
    d = ⟨name, members.filterMap Member.field?, members.filterMap Member.method?⟩
  | retain _ => False

/-- The step leaves alone what is declared under this name. -/
def Keeps (name : Text) : Step → Prop
  | register name' _ => name' ≠ name
  | retain allowed => name ∈ allowed

/-- The registration of a declaration. -/
def ofDecl (d : TypeDecl) : Step := register d.name d.members

end Step

/-- The names that a step reports as not registered, and the catalog after it. -/
def step (c : Catalog) : Step → List Text × Catalog
  | .register name members => ([], c.register (.ofMembers name members))
  | .retain allowed => (c.unknown allowed, c.retain allowed)

/-- The catalog after some steps. -/
def replay (c : Catalog) (steps : List Step) : Catalog := steps.foldl (fun c s => (c.step s).2) c

theorem replay_cons (c : Catalog) (s : Step) (steps : List Step) :
    c.replay (s :: steps) = (c.step s).2.replay steps := rfl

/-- The types that a catalog begins with were registered one after the other. -/
theorem ofList_eq_replay (decls : List TypeDecl) :
    ofList decls = empty.replay (decls.map Step.ofDecl) := by
  unfold ofList replay
  rw [List.foldl_map]
  congr 1
  funext c d
  change c.register d = c.register (.ofMembers d.name d.members)
  rw [TypeDecl.ofMembers_members]

theorem replay_append (c : Catalog) (before after : List Step) :
    c.replay (before ++ after) = (c.replay before).replay after := List.foldl_append

/-! ### Declarations in force -/

variable {c : Catalog} {d : TypeDecl} {name : Text} {s : Step} {steps : List Step}

/-- **The declaration is in force after this history.** A step of it has put the declaration into
the catalog, and no later one registers the name again or leaves it out. -/
def Standing (history : List Step) (d : TypeDecl) : Prop :=
  ∃ before s after, history = before ++ s :: after ∧ s.Declares d ∧ ∀ s' ∈ after, s'.Keeps d.name

theorem not_standing_nil : ¬ Standing [] d := by
  rintro ⟨before, s, after, h, -⟩
  exact absurd h.symm (by simp)

/-- The first step of a history counts only if all the others keep what it declares. -/
theorem standing_cons : Standing (s :: steps) d ↔
    Standing steps d ∨ (s.Declares d ∧ ∀ s' ∈ steps, s'.Keeps d.name) := by
  constructor
  · rintro ⟨before, s', after, h, hdeclares, hkeeps⟩
    cases before with
    | nil =>
      obtain ⟨rfl, rfl⟩ := List.cons.inj h
      exact .inr ⟨hdeclares, hkeeps⟩
    | cons first before =>
      exact .inl ⟨before, s', after, (List.cons.inj h).2, hdeclares, hkeeps⟩
  · rintro (⟨before, s', after, rfl, hdeclares, hkeeps⟩ | ⟨hdeclares, hkeeps⟩)
    · exact ⟨s :: before, s', after, rfl, hdeclares, hkeeps⟩
    · exact ⟨[], s, steps, rfl, hdeclares, hkeeps⟩

/-- **What one step does to a look-up.** -/
theorem find?_step_iff : (c.step s).2.find? name = some d ↔
    (s.Declares d ∧ d.name = name) ∨ (c.find? name = some d ∧ s.Keeps name) := by
  cases s with
  | register name' members =>
    change (c.register (.ofMembers name' members)).find? name = some d ↔
      (d = ⟨name', _, _⟩ ∧ d.name = name) ∨ (c.find? name = some d ∧ name' ≠ name)
    rw [find?_register, TypeDecl.ofMembers_eq]
    simp only
    split
    · next h =>
      -- the new declaration is the only one that can be found
      subst h
      rw [Option.some_inj]
      constructor
      · rintro rfl
        exact .inl ⟨rfl, rfl⟩
      · rintro (⟨rfl, -⟩ | ⟨-, h⟩)
        · rfl
        · exact absurd rfl h
    · next h =>
      constructor
      · intro hfind
        exact .inr ⟨hfind, h⟩
      · rintro (⟨rfl, rfl⟩ | ⟨hfind, -⟩)
        · exact absurd rfl h
        · exact hfind
  | retain allowed =>
    change (c.retain allowed).find? name = some d ↔
      (False ∧ d.name = name) ∨ (c.find? name = some d ∧ name ∈ allowed)
    rw [find?_retain, false_and, false_or]
    split
    · next h => exact (and_iff_left h).symm
    · next h => exact ⟨fun hfind => absurd hfind (by simp), fun hfind => absurd hfind.2 h⟩

/-- **What a history does to a look-up.** The induction is on the steps from the first: what it
declares is found in the end if all the others keep it. -/
theorem find?_replay_iff : (c.replay steps).find? name = some d ↔
    (Standing steps d ∧ d.name = name) ∨
      (c.find? name = some d ∧ ∀ s ∈ steps, s.Keeps name) := by
  induction steps generalizing c with
  | nil => simp [replay, not_standing_nil]
  | cons s steps ih =>
    rw [replay_cons, ih, find?_step_iff, standing_cons, List.forall_mem_cons]
    constructor
    · rintro (⟨hstanding, hname⟩ | ⟨⟨hdeclares, rfl⟩ | ⟨hfind, hkeep⟩, hkeeps⟩)
      · exact .inl ⟨.inl hstanding, hname⟩
      · exact .inl ⟨.inr ⟨hdeclares, hkeeps⟩, rfl⟩
      · exact .inr ⟨hfind, hkeep, hkeeps⟩
    · rintro (⟨hstanding | ⟨hdeclares, hkeeps⟩, rfl⟩ | ⟨hfind, hkeep, hkeeps⟩)
      · exact .inl ⟨hstanding, rfl⟩
      · exact .inr ⟨.inl ⟨hdeclares, rfl⟩, hkeeps⟩
      · exact .inr ⟨.inr ⟨hfind, hkeep⟩, hkeeps⟩

/-- A catalog that began with some types holds what is in force after these and the steps. -/
theorem find?_replay_ofList_iff (decls : List TypeDecl) :
    ((ofList decls).replay steps).find? name = some d ↔
      Standing (decls.map Step.ofDecl ++ steps) d ∧ d.name = name := by
  rw [ofList_eq_replay, ← replay_append, find?_replay_iff]
  exact or_iff_left fun h => absurd h.1 (by simp [empty, find?])

/-! ### Looking up with an error -/

theorem resolve_eq_ok_iff : c.resolve name = .ok d ↔ c.find? name = some d := by
  unfold resolve
  cases c.find? name <;> simp

theorem resolve_eq_error_iff {e : EngineError} :
    c.resolve name = .error e ↔ e = .unknownType name ∧ ∀ d, c.find? name ≠ some d := by
  unfold resolve
  cases c.find? name with
  | some d => simp
  | none => simp [eq_comm]

/-! ### Names -/

/-- The names ascend in the order of their bytes. -/
theorem ascending_names (c : Catalog) : (c.names.map Utf8.encode).Pairwise (· < ·) := by
  unfold names
  rw [List.pairwise_map, List.pairwise_map]
  exact c.ascending.imp fun h => Utf8.encode_lt_of_precedes h

/-- Those names are unknown that are not listed. -/
theorem unknown_eq_filter (c : Catalog) (allowed : List Text) :
    c.unknown allowed = allowed.filter fun name => name ∉ c.names := by
  refine List.filter_congr fun name _ => ?_
  unfold contains
  cases hfind : c.find? name with
  | some d =>
    have hmem : name ∈ c.names := mem_names_iff.2 ⟨d, hfind⟩
    simp [hmem]
  | none =>
    have hmem : name ∉ c.names := by
      intro h
      obtain ⟨d, hd⟩ := mem_names_iff.1 h
      rw [hfind] at hd
      cases hd
    simp [hmem]

/-- **After any history a catalog is a finite map from names to the declarations in force.** Let a
catalog begin with some types (with none, or with those that are built in) and go through any steps.

* Under a name the declaration in force is found, with its members in the order in which they were
  declared, and only if there is none the name is told to be unknown.
* The names ascend in the order of their bytes, and are just those under which something is found.
* Cutting the catalog down to a list reports the names on the list that are not registered at that
  moment, in their order and as often as they occur, and changes nothing under the others. -/
theorem resolve_replay (decls : List TypeDecl) (steps : List Step) :
    (∀ name d, ((ofList decls).replay steps).resolve name = .ok d ↔
      Standing (decls.map Step.ofDecl ++ steps) d ∧ d.name = name) ∧
    (∀ name e, ((ofList decls).replay steps).resolve name = .error e ↔
      e = .unknownType name ∧
        ∀ d, ¬ (Standing (decls.map Step.ofDecl ++ steps) d ∧ d.name = name)) ∧
    (((ofList decls).replay steps).names.map Utf8.encode).Pairwise (· < ·) ∧
    (∀ name, name ∈ ((ofList decls).replay steps).names ↔
      ∃ d, ((ofList decls).replay steps).resolve name = .ok d) ∧
    ∀ allowed : List Text,
      (((ofList decls).replay steps).step (.retain allowed)).1
        = allowed.filter (fun name => name ∉ ((ofList decls).replay steps).names) ∧
      ∀ name ∈ allowed,
        (((ofList decls).replay steps).step (.retain allowed)).2.resolve name
          = ((ofList decls).replay steps).resolve name := by
  refine ⟨fun name d => ?_, fun name e => ?_, ascending_names _, fun name => ?_,
    fun allowed => ⟨unknown_eq_filter _ allowed, fun name hname => ?_⟩⟩
  · rw [resolve_eq_ok_iff, find?_replay_ofList_iff]
  · rw [resolve_eq_error_iff]
    refine and_congr_right fun _ => forall_congr' fun d => not_congr ?_
    exact find?_replay_ofList_iff decls
  · rw [mem_names_iff]
    exact exists_congr fun d => resolve_eq_ok_iff.symm
  · change (((ofList decls).replay steps).retain allowed).resolve name = _
    unfold resolve
    rw [find?_retain_of_mem hname]

/-- The built-in catalog begins with six types. -/
example (r : Builtin.Readings) : Builtin.catalog r = ofList [Builtin.math r, Builtin.integer,
    Builtin.real, Builtin.boolean, Builtin.string, Builtin.system r] := rfl

end Catalog

end ReflectCalc
