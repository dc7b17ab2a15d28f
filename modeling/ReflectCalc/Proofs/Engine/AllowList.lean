import ReflectCalc.Proofs.Engine.Activations

/-!
# What an allow-list hides

`Catalog.retain` keeps the types on a list of names. For commands this is all that it does: a
command that asks for a type on the list is run as if nothing had been taken away, and one that asks
for another type is told that there is none.

* `AsksFor` says in terms of the command alone which type it asks for, once it has a known operation,
  the right number of arguments and known type tokens;
* `Catalog.runLogged_congr` — a run sees of the catalog only the type that is asked for;
* `Catalog.run_retain` is the exact effect of an allow-list, in one run and in two.

What comes before the type is settled without the catalog, and so a bad token is told before a hidden
type. What comes after it, the values and the method, is not reached by a command that asks for a
hidden type.
-/

namespace ReflectCalc

/-- **The type that a command asks for.** The command can be read, its operation is known and has as
many arguments as it takes, the type tokens (the third and the fifth argument, where there are so
many) name kinds, and `name` is the first argument. -/
def AsksFor (raw name : Text) : Prop :=
  ∃ cmd op, Command.parse raw = .ok cmd ∧ Operation.ofName? cmd.operation = some op ∧
    cmd.arguments.length = op.arity ∧
    (∀ i, i = 2 ∨ i = 4 → ∀ token ∈ cmd.arguments[i]?, (Kind.ofToken? token).isSome) ∧
    cmd.arguments[0]? = some name

namespace Query

/-- Arguments write a query exactly if they are as many as the operation takes, and all type tokens
among them name kinds. -/
theorem exists_written_iff {op : Operation} {args : List Text} {name : Text} :
    (∃ q, Written op args q ∧ q.type = name) ↔
      args.length = op.arity ∧
        (∀ i, i = 2 ∨ i = 4 → ∀ token ∈ args[i]?, (Kind.ofToken? token).isSome) ∧
        args[0]? = some name := by
  constructor
  · rintro ⟨q, hw, rfl⟩
    refine ⟨?_, ?_, hw.type_eq⟩
    · cases hw <;> rfl
    · rintro i (rfl | rfl) token htoken <;> cases hw <;> simp_all
  · rintro ⟨hlength, htokens, hname⟩
    -- the length shows the arguments one by one, and each token among them its kind
    have hsome : ∀ {i token}, i = 2 ∨ i = 4 → args[i]? = some token →
        ∃ kind, Kind.ofToken? token = some kind :=
      fun hi ht => Option.isSome_iff_exists.1 (htokens _ hi _ ht)
    cases op with
    | describe =>
      match args, hlength with
      | [type], _ =>
        obtain rfl := Option.some.inj hname
        exact ⟨_, .describe, rfl⟩
    | invoke =>
      match args, hlength with
      | [type, method], _ =>
        obtain rfl := Option.some.inj hname
        exact ⟨_, .invoke, rfl⟩
    | invokeUnary =>
      match args, hlength with
      | [type, method, token, raw], _ =>
        obtain rfl := Option.some.inj hname
        obtain ⟨kind, hk⟩ := hsome (.inl rfl) (by rfl)
        exact ⟨_, .unary hk, rfl⟩
    | invokeBinary =>
      match args, hlength with
      | [type, method, token, raw, token', raw'], _ =>
        obtain rfl := Option.some.inj hname
        obtain ⟨kind, hk⟩ := hsome (.inl rfl) (by rfl)
        obtain ⟨kind', hk'⟩ := hsome (.inr rfl) (by rfl)
        exact ⟨_, .binary hk hk', rfl⟩

/-- A command asks for the type of its query. -/
theorem asksFor_iff {raw name : Text} :
    AsksFor raw name ↔ ∃ q, ofText raw = .ok q ∧ q.type = name := by
  constructor
  · rintro ⟨cmd, op, hcmd, hop, hrest⟩
    obtain ⟨q, hw, hname⟩ := exists_written_iff.2 hrest
    exact ⟨q, ofText_eq_ok_iff.2 ⟨cmd, op, hcmd, hop, hw⟩, hname⟩
  · rintro ⟨q, hq, hname⟩
    obtain ⟨cmd, op, hcmd, hop, hw⟩ := ofText_eq_ok_iff.1 hq
    exact ⟨cmd, op, hcmd, hop, exists_written_iff.1 ⟨q, hw, hname⟩⟩

end Query

namespace Catalog

variable {c c' : Catalog} {allowed : List Text} {raw name : Text}

/-! ### What a run sees of the catalog -/

/-- The stages ask the catalog for the type of the query, and go on from the declaration alone. -/
theorem prepareQuery_eq_bind (q : Query) : ∃ next : TypeDecl → Except EngineError Prepared,
    ∀ c : Catalog, c.prepareQuery q = c.resolve q.type >>= next := by
  cases q with
  | describe type => exact ⟨_, fun c => rfl⟩
  | call type method values => exact ⟨_, fun c => rfl⟩

/-- **A run sees only the type that is asked for.** -/
theorem runLogged_congr (h : ∀ name, AsksFor raw name → c.find? name = c'.find? name) :
    c.runLogged raw = c'.runLogged raw := by
  have hprepare : c.prepare raw = c'.prepare raw := by
    unfold prepare
    cases hq : Query.ofText raw with
    | error e => rfl
    | ok q =>
      -- the query has been read without the catalog, and it names the one type that is looked up
      have hfind := h q.type (Query.asksFor_iff.2 ⟨q, hq, rfl⟩)
      obtain ⟨next, hnext⟩ := prepareQuery_eq_bind q
      change c.prepareQuery q = c'.prepareQuery q
      rw [hnext, hnext, resolve, resolve, hfind]
  unfold runLogged runWith
  rw [hprepare]

/-- The text that is sent is fixed by the result. -/
theorem execute_congr (h : c.runLogged raw = c'.runLogged raw) :
    c.execute raw = c'.execute raw := by
  unfold execute answer
  rw [← runLogged_fst, ← runLogged_fst, h]

/-- A command that asks for a type that is not declared is told so, and nothing is run. -/
theorem runLogged_of_find?_eq_none (hasks : AsksFor raw name) (hfind : c.find? name = none) :
    c.runLogged raw = (.error (.unknownType name), []) := by
  obtain ⟨q, hq, rfl⟩ := Query.asksFor_iff.1 hasks
  obtain ⟨next, hnext⟩ := prepareQuery_eq_bind q
  refine runLogged_of_error ?_
  unfold prepare
  rw [hq]
  change c.prepareQuery q = _
  rw [hnext, resolve, hfind]
  rfl

/-! ### Narrowing -/

/-- **An allow-list hides exactly the other types.** A command that asks for a type that is not on
the list is answered with the error that there is none, and no body is run. Every other command is
run as over the whole catalog, with the same result, the same activation and the same answer. So two
catalogs that declare the same under the names on the list cannot be told apart. Where the list is
not empty, a server narrows its catalog in just this way. -/
theorem run_retain (c : Catalog) (allowed : List Text) (raw : Text) :
    (∀ name, AsksFor raw name → name ∉ allowed →
      (c.retain allowed).run raw = .error (.unknownType name) ∧
      (c.retain allowed).answer raw = .error (sanitize ("TypeResolutionFailure: " ++ name)) ∧
      (c.retain allowed).activations raw = []) ∧
    ((∀ name, AsksFor raw name → name ∈ allowed) →
      (c.retain allowed).runLogged raw = c.runLogged raw ∧
      (c.retain allowed).execute raw = c.execute raw) ∧
    (∀ c' : Catalog, (∀ name ∈ allowed, c.find? name = c'.find? name) →
      (c.retain allowed).runLogged raw = (c'.retain allowed).runLogged raw ∧
      (c.retain allowed).execute raw = (c'.retain allowed).execute raw) ∧
    (allowed ≠ [] → c.narrow allowed = c.retain allowed) := by
  refine ⟨fun name hasks hname => ?_, fun hall => ?_, fun c' hagree => ?_, fun hne => ?_⟩
  · have hrun := runLogged_of_find?_eq_none hasks (find?_retain_of_not_mem (c := c) hname)
    have hresult : (c.retain allowed).run raw = .error (.unknownType name) := by
      rw [← runLogged_fst, hrun]
    refine ⟨hresult, ?_, ?_⟩
    · unfold answer
      rw [hresult]
      rfl
    · unfold activations
      rw [hrun]
  · have hrun : (c.retain allowed).runLogged raw = c.runLogged raw :=
      runLogged_congr fun name hasks => find?_retain_of_mem (hall name hasks)
    exact ⟨hrun, execute_congr hrun⟩
  · have hrun : (c.retain allowed).runLogged raw = (c'.retain allowed).runLogged raw := by
      -- a name on the list finds the same in both, and any other name finds nothing
      refine runLogged_congr fun name _ => ?_
      by_cases hname : name ∈ allowed
      · rw [find?_retain_of_mem hname, find?_retain_of_mem hname, hagree name hname]
      · rw [find?_retain_of_not_mem hname, find?_retain_of_not_mem hname]
    exact ⟨hrun, execute_congr hrun⟩
  · unfold narrow
    rw [if_neg (by simpa using hne)]

end Catalog

end ReflectCalc
