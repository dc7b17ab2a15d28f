import ReflectCalc.Catalog.Fault

/-!
# The catalog of types

A catalog holds type declarations by name, in the order of the names. Only what it holds can be
described or called.

* `TypeDecl.ofMembers` declares a type member by member;
* `Catalog.find?` looks a type up, `Catalog.names` lists the names in ascending order;
* `Catalog.register` adds a declaration or replaces the one of the same name;
* `Catalog.retain` keeps the named types only, and `Catalog.unknown` lists the names that are not
  registered.
-/

namespace ReflectCalc

/-- A declared field. -/
structure Field where
  type : TypeRef
  name : Text
deriving DecidableEq, Repr

namespace Field

/-- A field as it is listed. -/
def text (f : Field) : Text := f.type.text ++ " " ++ f.name

end Field

/-- How a declared method can be called. -/
inductive MethodBody where
  /-- Without an object, by running this function on the arguments. -/
  | static (run : List Argument → Outcome)
  /-- Only on an object, so never by a command. -/
  | onInstance

/-- A declared method. -/
structure Method where
  name : Text
  returns : TypeRef
  params : List TypeRef
  body : MethodBody

namespace Method

/-- Whether the method needs no object. -/
def isStatic (m : Method) : Bool :=
  match m.body with
  | .static _ => true
  | .onInstance => false

/-- Whether the declared parameters are exactly those that these kinds bind to. -/
def accepts (m : Method) (kinds : List Kind) : Bool := m.params == kinds.map Kind.param

/-- A method as it is listed. -/
def text (m : Method) : Text :=
  m.returns.text ++ " " ++ m.name ++ "(" ++ Text.join ", " (m.params.map TypeRef.text) ++ ")"

end Method

/-- A member of a type, as it is declared. -/
inductive Member where
  | field (f : Field)
  | method (m : Method)

namespace Member

/-- The field that is declared. -/
def field? : Member → Option Field
  | field f => some f
  | method _ => none

/-- The method that is declared. -/
def method? : Member → Option Method
  | field _ => none
  | method m => some m

end Member

/-- A declared type with its own members, in the order of their declaration. -/
structure TypeDecl where
  name : Text
  fields : List Field
  methods : List Method

namespace TypeDecl

/-- A type without members. -/
def empty (name : Text) : TypeDecl := ⟨name, [], []⟩

/-- Declares one more member, behind those that were declared before. -/
def declare (d : TypeDecl) : Member → TypeDecl
  | .field f => { d with fields := d.fields ++ [f] }
  | .method m => { d with methods := d.methods ++ [m] }

/-- The type for which these members are declared, one after the other. -/
def ofMembers (name : Text) (members : List Member) : TypeDecl :=
  members.foldl declare (empty name)

/-- The first declared method with this name whose parameters these kinds bind to. -/
def findMethod? (d : TypeDecl) (name : Text) (kinds : List Kind) : Option Method :=
  d.methods.find? fun m => m.name == name && m.accepts kinds

end TypeDecl

/-- The declarations by name, in strictly ascending order of the names. -/
structure Catalog where
  /-- The declarations. -/
  types : List TypeDecl
  /-- The names ascend, so no name occurs twice. -/
  ascending : types.Pairwise fun a b => a.name.precedes b.name

namespace Catalog

/-- The catalog that holds nothing. -/
def empty : Catalog := ⟨[], List.Pairwise.nil⟩

/-- The declaration of a name. -/
def find? (c : Catalog) (name : Text) : Option TypeDecl := c.types.find? fun d => d.name == name

/-- Whether a name is declared. -/
def contains (c : Catalog) (name : Text) : Bool := (c.find? name).isSome

/-- The declared names, ascending. -/
def names (c : Catalog) : List Text := c.types.map TypeDecl.name

/-- Puts a declaration at its place among declarations in ascending order, instead of one of the
same name. -/
def insertInto (d : TypeDecl) : List TypeDecl → List TypeDecl
  | [] => [d]
  | e :: rest =>
    if d.name.precedes e.name then d :: e :: rest
    else if d.name = e.name then d :: rest
    else e :: insertInto d rest

theorem mem_insertInto {d x : TypeDecl} {l : List TypeDecl} (h : x ∈ insertInto d l) :
    x = d ∨ x ∈ l := by
  induction l with
  | nil => simpa [insertInto] using h
  | cons e rest ih =>
    simp only [insertInto] at h
    split at h
    · simpa using h
    · split at h
      · rcases List.mem_cons.1 h with h | h
        · exact .inl h
        · exact .inr (List.mem_cons_of_mem _ h)
      · rcases List.mem_cons.1 h with h | h
        · exact .inr (h ▸ List.mem_cons_self)
        · exact (ih h).imp id (List.mem_cons_of_mem _)

theorem ascending_insertInto {d : TypeDecl} {l : List TypeDecl}
    (h : l.Pairwise fun a b => a.name.precedes b.name) :
    (insertInto d l).Pairwise fun a b => a.name.precedes b.name := by
  induction l with
  | nil => simp [insertInto]
  | cons e rest ih =>
    obtain ⟨he, hrest⟩ := List.pairwise_cons.1 h
    simp only [insertInto]
    split
    · rename_i hlt
      refine List.pairwise_cons.2 ⟨fun x hx => ?_, h⟩
      rcases List.mem_cons.1 hx with rfl | hx
      · exact hlt
      · exact Text.precedes_trans hlt (he x hx)
    · split
      · rename_i heq
        exact List.pairwise_cons.2 ⟨fun x hx => heq ▸ he x hx, hrest⟩
      · rename_i hlt hne
        refine List.pairwise_cons.2 ⟨fun x hx => ?_, ih hrest⟩
        rcases mem_insertInto hx with rfl | hx
        · exact Text.precedes_of_not_precedes (Bool.eq_false_iff.2 hlt) (Ne.symm hne)
        · exact he x hx

/-- Declares a type, in place of any earlier declaration of the same name. -/
def register (c : Catalog) (d : TypeDecl) : Catalog :=
  ⟨insertInto d c.types, ascending_insertInto c.ascending⟩

/-- The catalog of a list of declarations, the last one of each name. -/
def ofList (decls : List TypeDecl) : Catalog := decls.foldl register empty

/-- Keeps the named types only. -/
def retain (c : Catalog) (allowed : List Text) : Catalog :=
  ⟨c.types.filter fun d => allowed.contains d.name, c.ascending.filter _⟩

/-- Those of the names that are not declared, in their order and as often as they occur. -/
def unknown (c : Catalog) (allowed : List Text) : List Text :=
  allowed.filter fun name => !c.contains name

/-- Narrows the catalog to an allow-list; an empty list allows every type. -/
def narrow (c : Catalog) (allowed : List Text) : Catalog :=
  if allowed.isEmpty then c else c.retain allowed

end Catalog

end ReflectCalc
