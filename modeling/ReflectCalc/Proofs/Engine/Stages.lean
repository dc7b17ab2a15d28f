import ReflectCalc.Engine.Basic

/-!
# The stages of a command

What is known of a command that has come through the stages of the engine. Each stage has one
statement, which says everything that its success tells, so that no later proof opens the stage
again:

* `Query.Written` are the queries that an operation and its arguments write, and
  `Query.ofOperation_eq_ok_iff` says that these are the ones that are read;
* `RawValue.map_kind_of_mapM_read` — reading values keeps their kinds and their number;
* `TypeDecl.staticMethod_eq_ok` — the method found is the first that matches, and it is static;
* `Catalog.prepare_eq_call` and `Catalog.ofBody_of_prepare` put these together: what is known of a
  call that has come through, and that no failure on the way comes from a body.
-/

namespace ReflectCalc

section Bind

variable {ε α β : Type} {x : Except ε α} {f : α → Except ε β}

/-- A computation comes to a value by way of a value of its first part. -/
theorem bind_eq_ok {b : β} (h : x >>= f = .ok b) : ∃ a, x = .ok a ∧ f a = .ok b := by
  cases x with
  | error e => cases h
  | ok a => exact ⟨a, rfl, h⟩

/-- A computation fails in its first part or in what follows it. -/
theorem bind_eq_error {e : ε} (h : x >>= f = .error e) :
    x = .error e ∨ ∃ a, x = .ok a ∧ f a = .error e := by
  cases x with
  | error e' => exact .inl (by cases h; rfl)
  | ok a => exact .inr ⟨a, rfl, h⟩

end Bind

namespace EngineError

/-- Whether an error comes from a body that was run. -/
def ofBody : EngineError → Bool
  | fault _ => true
  | crash _ => true
  | _ => false

end EngineError

/-! ### From an operation to its query -/

namespace RawValue

theorem ofToken_eq_ok {token raw : Text} {v : RawValue} (h : ofToken token raw = .ok v) :
    ∃ kind, Kind.ofToken? token = some kind ∧ v = ⟨kind, raw⟩ := by
  unfold ofToken at h
  cases hk : Kind.ofToken? token with
  | none => simp [hk] at h
  | some kind => exact ⟨kind, rfl, by simpa [hk] using h.symm⟩

theorem ofBody_of_ofToken {token raw : Text} {e : EngineError} (h : ofToken token raw = .error e) :
    e.ofBody = false := by
  unfold ofToken at h
  split at h
  · cases h
  · obtain rfl := Except.error.inj h
    rfl

theorem ofToken_of_some {token raw : Text} {kind : Kind} (h : Kind.ofToken? token = some kind) :
    ofToken token raw = .ok ⟨kind, raw⟩ := by
  simp [ofToken, h]

end RawValue

namespace Query

variable {op : Operation} {args : List Text} {q : Query} {raw name : Text}

/-- The queries that operations write with their arguments. -/
inductive Written : Operation → List Text → Query → Prop where
  | describe {type : Text} : Written .describe [type] (.describe type)
  | invoke {type method : Text} : Written .invoke [type, method] (.call type method [])
  | unary {type method token raw : Text} {kind : Kind} (h : Kind.ofToken? token = some kind) :
    Written .invokeUnary [type, method, token, raw] (.call type method [⟨kind, raw⟩])
  | binary {type method token raw token' raw' : Text} {kind kind' : Kind}
    (h : Kind.ofToken? token = some kind) (h' : Kind.ofToken? token' = some kind') :
    Written .invokeBinary [type, method, token, raw, token', raw']
      (.call type method [⟨kind, raw⟩, ⟨kind', raw'⟩])

/-- The query that is read is the one that is written. -/
theorem ofOperation_eq_ok_iff : ofOperation op args = .ok q ↔ Written op args q := by
  constructor
  · intro h
    unfold ofOperation at h
    -- one case for each operation with as many arguments as it takes, and one for all else
    split at h
    · obtain rfl := Except.ok.inj h
      exact .describe
    · obtain rfl := Except.ok.inj h
      exact .invoke
    · obtain ⟨v, hv, h⟩ := bind_eq_ok h
      obtain ⟨kind, hk, rfl⟩ := RawValue.ofToken_eq_ok hv
      obtain rfl := Except.ok.inj h
      exact .unary hk
    · obtain ⟨v, hv, h⟩ := bind_eq_ok h
      obtain ⟨v', hv', h⟩ := bind_eq_ok h
      obtain ⟨kind, hk, rfl⟩ := RawValue.ofToken_eq_ok hv
      obtain ⟨kind', hk', rfl⟩ := RawValue.ofToken_eq_ok hv'
      obtain rfl := Except.ok.inj h
      exact .binary hk hk'
    · cases h
  · intro h
    cases h with
    | describe => rfl
    | invoke => rfl
    | unary hk =>
      rw [ofOperation, RawValue.ofToken_of_some hk]
      rfl
    | binary hk hk' =>
      rw [ofOperation, RawValue.ofToken_of_some hk, RawValue.ofToken_of_some hk']
      rfl

/-- A query that is written has the type in the first place of the arguments. -/
theorem Written.type_eq (h : Written op args q) : args[0]? = some q.type := by
  cases h <;> rfl

/-- A call that is written has its method in the second place, and at most two values. -/
theorem Written.call_eq {type method : Text} {values : List RawValue}
    (h : Written op args (.call type method values)) :
    args[0]? = some type ∧ args[1]? = some method ∧ values.length ≤ 2 := by
  cases h <;> simp

/-- A command comes to a query if it is well formed and its operation writes the query. -/
theorem ofText_eq_ok_iff :
    ofText raw = .ok q ↔ ∃ cmd op, Command.parse raw = .ok cmd ∧
      Operation.ofName? cmd.operation = some op ∧ Written op cmd.arguments q := by
  constructor
  · intro h
    unfold ofText at h
    split at h
    · next cmd hp =>
      unfold ofCommand at h
      split at h
      · next op ho => exact ⟨cmd, op, hp, ho, ofOperation_eq_ok_iff.1 h⟩
      · cases h
    · cases h
  · rintro ⟨cmd, op, hp, ho, hw⟩
    simp [ofText, hp, ofCommand, ho, ofOperation_eq_ok_iff.2 hw]

theorem ofBody_of_ofOperation {e : EngineError} (h : ofOperation op args = .error e) :
    e.ofBody = false := by
  unfold ofOperation at h
  split at h
  · cases h
  · cases h
  · -- with its tokens known, an operation always has a query
    rcases bind_eq_error h with h | ⟨v, -, h⟩
    · exact RawValue.ofBody_of_ofToken h
    · cases h
  · rcases bind_eq_error h with h | ⟨v, -, h⟩
    · exact RawValue.ofBody_of_ofToken h
    · rcases bind_eq_error h with h | ⟨v', -, h⟩
      · exact RawValue.ofBody_of_ofToken h
      · cases h
  · obtain rfl := Except.error.inj h
    rfl

/-- A command without a query has not come as far as a body. -/
theorem ofBody_of_ofText {e : EngineError} (h : ofText raw = .error e) : e.ofBody = false := by
  unfold ofText at h
  split at h
  · unfold ofCommand at h
    split at h
    · exact ofBody_of_ofOperation h
    · obtain rfl := Except.error.inj h
      rfl
  · obtain rfl := Except.error.inj h
    rfl

end Query

/-! ### Values and methods -/

namespace Argument

/-- A value is read as an argument of its kind. -/
theorem kind_of_read? {kind : Kind} {raw : Text} {a : Argument} (h : read? kind raw = some a) :
    a.kind = kind := by
  cases kind with
  | int =>
    obtain ⟨n, -, rfl⟩ := Option.map_eq_some_iff.1 h
    rfl
  | double =>
    obtain ⟨d, -, rfl⟩ := Option.map_eq_some_iff.1 h
    rfl
  | text =>
    obtain rfl := Option.some.inj h
    rfl

end Argument

namespace RawValue

theorem kind_of_read {v : RawValue} {a : Argument} (h : v.read = .ok a) : a.kind = v.kind := by
  unfold read at h
  split at h
  · next a' ha =>
    obtain rfl := Except.ok.inj h
    exact Argument.kind_of_read? ha
  · cases h

/-- Reading values keeps their kinds, one by one. -/
theorem map_kind_of_mapM_read {values : List RawValue} {args : List Argument}
    (h : values.mapM read = .ok args) : args.map Argument.kind = values.map kind := by
  induction values generalizing args with
  | nil =>
    obtain rfl := Except.ok.inj h
    rfl
  | cons v values ih =>
    rw [List.mapM_cons] at h
    obtain ⟨a, ha, h⟩ := bind_eq_ok h
    obtain ⟨rest, hrest, h⟩ := bind_eq_ok h
    obtain rfl := Except.ok.inj h
    rw [List.map_cons, List.map_cons, kind_of_read ha, ih hrest]

theorem ofBody_of_mapM_read {values : List RawValue} {e : EngineError}
    (h : values.mapM read = .error e) : e.ofBody = false := by
  induction values with
  | nil => cases h
  | cons v values ih =>
    rw [List.mapM_cons] at h
    rcases bind_eq_error h with h | ⟨a, -, h⟩
    · unfold read at h
      split at h
      · cases h
      · obtain rfl := Except.error.inj h
        rfl
    · rcases bind_eq_error h with h | ⟨rest, -, h⟩
      · exact ih h
      · cases h

end RawValue

namespace TypeDecl

variable {d : TypeDecl} {name : Text} {kinds : List Kind}

/-- The method that is found is static, has the name and parameters of the kinds, and no method that
is declared before it has both. -/
theorem staticMethod_eq_ok {method : Method} (h : d.staticMethod name kinds = .ok method) :
    (∃ body, method.body = .static body) ∧ method.name = name ∧
      method.params = kinds.map Kind.param ∧
      ∃ before after, d.methods = before ++ method :: after ∧
        ∀ m ∈ before, ¬(m.name = name ∧ m.params = kinds.map Kind.param) := by
  unfold staticMethod at h
  split at h
  · next m hm =>
    split at h
    · next hstatic =>
      obtain rfl := Except.ok.inj h
      -- the search tells what it has passed over as well as what it has found
      obtain ⟨hmatch, before, after, hsplit, hbefore⟩ := List.find?_eq_some_iff_append.1 hm
      have hbody : ∃ body, m.body = .static body := by
        unfold Method.isStatic at hstatic
        split at hstatic
        · next body hb => exact ⟨body, hb⟩
        · cases hstatic
      have hm' : m.name = name ∧ m.params = kinds.map Kind.param := by
        simpa [Method.accepts] using hmatch
      -- an earlier method with this name and these parameters would have been found
      refine ⟨hbody, hm'.1, hm'.2, before, after, hsplit, fun x hx hboth => ?_⟩
      have := hbefore x hx
      simp [Method.accepts, hboth.1, hboth.2] at this
    · cases h
  · cases h

theorem ofBody_of_staticMethod {e : EngineError} (h : d.staticMethod name kinds = .error e) :
    e.ofBody = false := by
  unfold staticMethod at h
  split at h
  · split at h
    · cases h
    · obtain rfl := Except.error.inj h
      rfl
  · obtain rfl := Except.error.inj h
    rfl

end TypeDecl

/-! ### The catalog -/

namespace Catalog

variable {c : Catalog} {raw name : Text} {q : Query}

theorem resolve_eq_ok {d : TypeDecl} (h : c.resolve name = .ok d) : c.find? name = some d := by
  unfold resolve at h
  split at h
  · next d' hd =>
    obtain rfl := Except.ok.inj h
    exact hd
  · cases h

theorem ofBody_of_resolve {e : EngineError} (h : c.resolve name = .error e) :
    e.ofBody = false := by
  unfold resolve at h
  split at h
  · cases h
  · obtain rfl := Except.error.inj h
    rfl

/-- A call that is prepared has come through every stage. -/
theorem prepare_eq_call {call : Call} (h : c.prepare raw = .ok (.call call)) :
    ∃ type method values, Query.ofText raw = .ok (.call type method values) ∧
      c.find? type = some call.type ∧ values.mapM RawValue.read = .ok call.args ∧
      call.type.staticMethod method (values.map RawValue.kind) = .ok call.method := by
  obtain ⟨q, hq, h⟩ := bind_eq_ok h
  cases q with
  | describe type =>
    obtain ⟨d, -, h⟩ := bind_eq_ok h
    cases h
  | call type method values =>
    obtain ⟨d, hd, h⟩ := bind_eq_ok h
    obtain ⟨args, hargs, h⟩ := bind_eq_ok h
    obtain ⟨m, hm, h⟩ := bind_eq_ok h
    cases h
    exact ⟨type, method, values, hq, resolve_eq_ok hd, hargs, hm⟩

/-- What fails in preparation has not come as far as a body. -/
theorem ofBody_of_prepare {e : EngineError} (h : c.prepare raw = .error e) : e.ofBody = false := by
  -- each stage fails with an error of its own
  rcases bind_eq_error h with h | ⟨q, -, h⟩
  · exact Query.ofBody_of_ofText h
  · cases q with
    | describe type =>
      rcases bind_eq_error h with h | ⟨d, -, h⟩
      · exact ofBody_of_resolve h
      · cases h
    | call type method values =>
      rcases bind_eq_error h with h | ⟨d, -, h⟩
      · exact ofBody_of_resolve h
      rcases bind_eq_error h with h | ⟨args, -, h⟩
      · exact RawValue.ofBody_of_mapM_read h
      rcases bind_eq_error h with h | ⟨m, -, h⟩
      · exact TypeDecl.ofBody_of_staticMethod h
      · cases h

end Catalog

end ReflectCalc
