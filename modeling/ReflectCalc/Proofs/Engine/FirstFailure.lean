import Mathlib.Order.WellFounded
import ReflectCalc.Proofs.Catalog.Lookup
import ReflectCalc.Proofs.Engine.Checks

/-!
# Which failure answers a command

A command can be wrong in several ways at once. The checks are spread over the reader of commands,
the operations, the catalog and the method that is called, and each of them is a `Stage` here.

* `Catalog.Fails c raw s e` says what it means to fail at one stage, from the text and the catalog
  alone. It does not say that the stages before have been cleared, and so one command can fail at
  many stages, with a different error at each.
* `Catalog.FailsFirst c raw s e` adds that the command clears every stage before.
* `Catalog.Yields c raw r` says in the same way what a command comes to that fails nowhere.

`Catalog.run_first_failure` is the main result: a run fails with the error of the first stage at
which the command fails, and succeeds if there is none.

The proof follows the stages. The lemmas on `Catalog.ClearsBefore` collect what has been cleared up
to some stage into what the engine has in hand there, and each of them goes on from the one before.
To fail at a stage is then to fail with its error (`Catalog.run_of_failsFirst`), since the checks of
the later stages are not reached.
-/

namespace ReflectCalc

/-- The stages at which a command can fail. -/
inductive Stage where
  /-- There is a command at all. -/
  | blank
  /-- It has a pair of parentheses. -/
  | malformed
  /-- Its operation is known. -/
  | operation
  /-- The operation takes as many arguments. -/
  | count
  /-- The type token of a value, the first or the second one, names a kind. -/
  | token (i : Fin 2)
  /-- The type is registered. -/
  | type
  /-- A value, the first or the second one, can be read at its kind. -/
  | value (i : Fin 2)
  /-- The type declares a method of the name for values of these kinds. -/
  | method
  /-- The first such method needs no object. -/
  | receiver
  /-- Its body returns a value. -/
  | body
deriving DecidableEq, Repr

namespace Stage

/-- All stages, in the order in which they decide. -/
def all : List Stage :=
  [blank, malformed, operation, count, token 0, token 1, type, value 0, value 1, method, receiver,
    body]

/-- One stage decides before another. -/
def Before (s t : Stage) : Prop := all.idxOf s < all.idxOf t

instance (s t : Stage) : Decidable (s.Before t) := Nat.decLt _ _

theorem token_before_token : ∀ i j : Fin 2, j < i → (token j).Before (token i) := by decide

theorem value_before_value : ∀ i j : Fin 2, j < i → (value j).Before (value i) := by decide

theorem token_before_type : ∀ i, (token i).Before type := by decide

theorem value_before_method : ∀ i, (value i).Before method := by decide

theorem type_before_value : ∀ i, type.Before (value i) := by decide

end Stage

namespace Catalog

/-- The method that a command calls: of those that the registered type declares, the first one with
the name in the second place that takes values of the kinds that the tokens name. -/
structure Calls (c : Catalog) (cmd : Command) (d : TypeDecl) (m : Method) : Prop where
  registered : d ∈ c.types
  type_named : cmd.arguments[0]? = some d.name
  method_named : cmd.arguments[1]? = some m.name
  takes : m.Matches m.name (cmd.values.map RawValue.kind)
  first : ∃ before after, d.methods = before ++ m :: after ∧
    ∀ x ∈ before, ¬x.Matches m.name (cmd.values.map RawValue.kind)

/-- **To fail at a stage**, whatever becomes of the command at the other stages. -/
inductive Fails (c : Catalog) (raw : Text) : Stage → EngineError → Prop where
  | blank (h : Text.Blank raw) : Fails c raw .blank (.parse .empty)
  | malformed (h : ¬List.Sublist ['(', ')'] raw) : Fails c raw .malformed (.parse .malformed)
  | operation {cmd : Command} (hcmd : Command.parse raw = .ok cmd)
      (h : ∀ op : Operation, op.name ≠ cmd.operation) :
      Fails c raw .operation (.unknownOperation cmd.operation)
  | count {cmd : Command} {op : Operation} (hcmd : Command.parse raw = .ok cmd)
      (hop : op.name = cmd.operation) (h : cmd.arguments.length ≠ op.arity) :
      Fails c raw .count (.arity op)
  | token {cmd : Command} {i : Fin 2} {token : Text} (hcmd : Command.parse raw = .ok cmd)
      (htoken : cmd.arguments[2 + 2 * i.val]? = some token) (h : Kind.ofToken? token = none) :
      Fails c raw (.token i) (.unsupportedType token.trim)
  | type {cmd : Command} {name : Text} (hcmd : Command.parse raw = .ok cmd)
      (hname : cmd.arguments[0]? = some name) (h : ∀ d ∈ c.types, d.name ≠ name) :
      Fails c raw .type (.unknownType name)
  | value {cmd : Command} {i : Fin 2} {v : RawValue} (hcmd : Command.parse raw = .ok cmd)
      (hv : cmd.value? i.val = some v) (h : Argument.read? v.kind v.raw = none) :
      Fails c raw (.value i) (.badValue v.kind v.raw)
  | method {cmd : Command} {d : TypeDecl} {name : Text} (hcmd : Command.parse raw = .ok cmd)
      (hd : d ∈ c.types) (htype : cmd.arguments[0]? = some d.name)
      (hname : cmd.arguments[1]? = some name)
      (h : ∀ m ∈ d.methods, ¬m.Matches name (cmd.values.map RawValue.kind)) :
      Fails c raw .method (.unknownMethod d.name name (cmd.values.map RawValue.kind))
  | receiver {cmd : Command} {d : TypeDecl} {m : Method} (hcmd : Command.parse raw = .ok cmd)
      (hcalls : Calls c cmd d m) (h : m.body = .onInstance) :
      Fails c raw .receiver (.notStatic d.name m.name)
  | fault {cmd : Command} {d : TypeDecl} {m : Method} {body : List Argument → Outcome} {f : Fault}
      (hcmd : Command.parse raw = .ok cmd) (hcalls : Calls c cmd d m)
      (hbody : m.body = .static body) (h : body cmd.args = .fault f) :
      Fails c raw .body (.fault f)
  | crash {cmd : Command} {d : TypeDecl} {m : Method} {body : List Argument → Outcome}
      {message : Option Text} (hcmd : Command.parse raw = .ok cmd) (hcalls : Calls c cmd d m)
      (hbody : m.body = .static body) (h : body cmd.args = .crash message) :
      Fails c raw .body (.crash message)

/-- A command clears a stage if it does not fail there. -/
def Clears (c : Catalog) (raw : Text) (s : Stage) : Prop := ∀ e, ¬Fails c raw s e

/-- A command clears all stages before one. -/
def ClearsBefore (c : Catalog) (raw : Text) (s : Stage) : Prop :=
  ∀ t : Stage, t.Before s → c.Clears raw t

/-- **The first stage at which a command fails.** -/
def FailsFirst (c : Catalog) (raw : Text) (s : Stage) (e : EngineError) : Prop :=
  c.Fails raw s e ∧ c.ClearsBefore raw s

/-- **What a command comes to that fails nowhere**: the declaration of the type that it names, or
the value of the body of the method that it calls. -/
inductive Yields (c : Catalog) (raw : Text) : Result → Prop where
  | describe {cmd : Command} {d : TypeDecl} (hcmd : Command.parse raw = .ok cmd)
      (hop : cmd.operation = Operation.describe.name) (hd : d ∈ c.types)
      (htype : cmd.arguments[0]? = some d.name) : Yields c raw (.members d)
  | call {cmd : Command} {d : TypeDecl} {m : Method} {body : List Argument → Outcome} {v : Value}
      (hcmd : Command.parse raw = .ok cmd) (hop : cmd.operation ≠ Operation.describe.name)
      (hcalls : Calls c cmd d m) (hbody : m.body = .static body) (h : body cmd.args = .value v) :
      Yields c raw (.value v)

variable {c : Catalog} {raw name : Text} {cmd : Command} {d : TypeDecl} {m : Method}
  {s t : Stage} {e : EngineError}

/-- The method that is called is the one that is looked up. -/
theorem Calls.findMethod? (h : Calls c cmd d m) :
    d.findMethod? m.name (cmd.values.map RawValue.kind) = some m :=
  TypeDecl.findMethod?_eq_some_iff.2 ⟨h.takes, h.first⟩

/-- A name stands for one type. -/
theorem eq_of_named {d' : TypeDecl} (hd : d ∈ c.types) (hd' : d' ∈ c.types)
    (h : some d.name = some d'.name) : d = d' := by
  have hfind := find?_of_mem hd
  rw [Option.some.inj h, find?_of_mem hd'] at hfind
  exact (Option.some.inj hfind).symm

/-! ### What has been passed -/

theorem ClearsBefore.mono (h : c.ClearsBefore raw t) (hst : s.Before t) : c.ClearsBefore raw s :=
  fun u hu => h u (Nat.lt_trans hu hst)

theorem exists_failsFirst (h : c.Fails raw s e) : ∃ s e, c.FailsFirst raw s e := by
  obtain ⟨t, ⟨e', ht⟩, hmin⟩ := (measure (Stage.all.idxOf ·)).wf.has_min
    {t | ∃ e, c.Fails raw t e} ⟨s, e, h⟩
  exact ⟨t, e', ht, fun u hu e'' hfails => hmin u ⟨e'', hfails⟩ hu⟩

theorem ClearsBefore.parsed (h : c.ClearsBefore raw .operation) :
    ∃ cmd, Command.parse raw = .ok cmd := by
  refine Command.exists_parse_eq_ok (fun hb => h .blank (by decide) _ (.blank hb)) ?_
  by_contra hm
  exact h .malformed (by decide) _ (.malformed hm)

theorem ClearsBefore.known (h : c.ClearsBefore raw .count) :
    ∃ cmd op, Command.parse raw = .ok cmd ∧ Operation.ofName? cmd.operation = some op := by
  obtain ⟨cmd, hcmd⟩ := (h.mono (s := .operation) (by decide)).parsed
  cases hop : Operation.ofName? cmd.operation with
  | some op => exact ⟨cmd, op, hcmd, hop⟩
  | none =>
    refine absurd (.operation hcmd fun op hname => ?_) (h .operation (by decide) _)
    rw [Operation.ofName?_eq_some_iff.2 hname] at hop
    cases hop

theorem ClearsBefore.counted (h : c.ClearsBefore raw (.token 0)) :
    ∃ cmd op, Command.parse raw = .ok cmd ∧ Operation.ofName? cmd.operation = some op ∧
      cmd.arguments.length = op.arity := by
  obtain ⟨cmd, op, hcmd, hop⟩ := (h.mono (s := .count) (by decide)).known
  refine ⟨cmd, op, hcmd, hop, ?_⟩
  by_contra hlength
  exact h .count (by decide) _ (.count hcmd (Operation.ofName?_eq_some_iff.1 hop) hlength)

/-- Up to the type the query has been read. -/
theorem ClearsBefore.asked (h : c.ClearsBefore raw .type) :
    ∃ cmd op q, Command.parse raw = .ok cmd ∧ Operation.ofName? cmd.operation = some op ∧
      Query.Written op cmd.arguments q := by
  obtain ⟨cmd, op, hcmd, hop, hlength⟩ := (h.mono (s := .token 0) (by decide)).counted
  have hsome : ∀ i : Fin 2, ∀ t, cmd.arguments[2 + 2 * i.val]? = some t →
      Kind.ofToken? t ≠ none := by
    intro i t ht hnone
    exact h (.token i) (Stage.token_before_type i) _ (.token hcmd ht hnone)
  have htokens : ∀ i, i = 2 ∨ i = 4 → ∀ t ∈ cmd.arguments[i]?, (Kind.ofToken? t).isSome := by
    rintro i (rfl | rfl) t ht
    · exact Option.isSome_iff_ne_none.2 (hsome 0 t ht)
    · exact Option.isSome_iff_ne_none.2 (hsome 1 t ht)
  have hpos : 0 < cmd.arguments.length := by
    rw [hlength]
    cases op <;> decide
  obtain ⟨q, hw, -⟩ :=
    Query.exists_written_iff.2 ⟨hlength, htokens, List.getElem?_eq_getElem hpos⟩
  exact ⟨cmd, op, q, hcmd, hop, hw⟩

/-- Up to the values the type has been found. What is left of a call is to read the values and to
look the method up; nothing is left of a description. -/
theorem ClearsBefore.resolved (h : c.ClearsBefore raw (.value 0)) :
    ∃ cmd, Command.parse raw = .ok cmd ∧ ∃ d ∈ c.types, cmd.arguments[0]? = some d.name ∧
      ((cmd.operation = Operation.describe.name ∧ cmd.arguments[1]? = none ∧
          c.prepare raw = .ok (.describe d)) ∨
        ∃ name, cmd.operation ≠ Operation.describe.name ∧ cmd.arguments[1]? = some name ∧
          c.prepare raw = do
            let args ← cmd.values.mapM RawValue.read
            let m ← d.staticMethod name (cmd.values.map RawValue.kind)
            return .call ⟨d, m, args⟩) := by
  obtain ⟨cmd, op, q, hcmd, hop, hw⟩ := (h.mono (s := .type) (by decide)).asked
  have hq : Query.ofText raw = .ok q := Query.ofText_eq_ok_iff.2 ⟨cmd, op, hcmd, hop, hw⟩
  have hprepare : c.prepare raw = c.prepareQuery q := by
    rw [prepare, hq]
    rfl
  obtain ⟨d, hd, hname⟩ : ∃ d ∈ c.types, d.name = q.type := by
    by_contra hnone
    refine h .type (by decide) _ (.type hcmd hw.type_eq fun d hd hname => hnone ⟨d, hd, hname⟩)
  have hresolve : c.resolve q.type = .ok d := by
    rw [resolve, ← hname, find?_of_mem hd]
  have hopname : op.name = cmd.operation := Operation.ofName?_eq_some_iff.1 hop
  refine ⟨cmd, hcmd, d, hd, hname ▸ hw.type_eq, ?_⟩
  rw [hprepare]
  cases q with
  | describe type =>
    obtain ⟨rfl, hnone⟩ := hw.describe_eq
    refine .inl ⟨hopname.symm, hnone, ?_⟩
    rw [prepareQuery, show c.resolve type = .ok d from hresolve]
    rfl
  | call type method values =>
    obtain ⟨-, hmethod, -⟩ := hw.call_eq
    refine .inr ⟨method, hopname ▸ hw.name_ne, hmethod, ?_⟩
    rw [prepareQuery, show c.resolve type = .ok d from hresolve, hw.values_eq]
    rfl

/-! ### Failing first -/

theorem run_of_ofText (h : Query.ofText raw = .error e) : c.run raw = .error e := by
  have hprepare : c.prepare raw = .error e := by
    rw [prepare, h]
    rfl
  rw [← runLogged_fst, runLogged_of_error hprepare]

/-- To fail at one of the stages before the type is to have no query. -/
theorem ofText_of_failsFirst (h : c.FailsFirst raw s e) (hs : s.Before .type) :
    Query.ofText raw = .error e := by
  obtain ⟨hfails, hclears⟩ := h
  cases hfails with
  | blank hblank => rw [Query.ofText, Command.parse_of_blank hblank]
  | malformed hmalformed =>
    have hblank : ¬Text.Blank raw := fun hb => hclears .blank (by decide) _ (.blank hb)
    rw [Query.ofText, Command.parse_of_malformed hblank hmalformed]
  | operation hcmd hop =>
    simp [Query.ofText, hcmd, Query.ofCommand, Operation.ofName?_eq_none_of_forall hop]
  | @count cmd op hcmd hop hlength =>
    simp [Query.ofText, hcmd, Query.ofCommand, Operation.ofName?_eq_some_iff.2 hop,
      Query.ofOperation_of_length_ne hlength]
  | @token cmd i token hcmd htoken hnone =>
    obtain ⟨cmd', op, hcmd', hop, hlength⟩ : ∃ cmd' op, Command.parse raw = .ok cmd' ∧
        Operation.ofName? cmd'.operation = some op ∧ cmd'.arguments.length = op.arity := by
      by_cases hi : i = 0
      · subst hi
        exact hclears.counted
      · obtain rfl := Fin.eq_one_of_ne_zero i hi
        have hearlier : c.ClearsBefore raw (.token 0) := hclears.mono (by decide)
        exact hearlier.counted
    obtain rfl : cmd = cmd' := Except.ok.inj (hcmd.symm.trans hcmd')
    have hbefore : ∀ j < i, ∀ t, cmd.arguments[2 + 2 * j.val]? = some t →
        Kind.ofToken? t ≠ none := by
      intro j hj t ht hnone'
      exact hclears _ (Stage.token_before_token i j hj) _ (.token hcmd ht hnone')
    simp [Query.ofText, hcmd, Query.ofCommand, hop,
      Query.ofOperation_of_token hlength htoken hnone hbefore]
  | @value _ i => exact absurd hs (Nat.lt_asymm (Stage.type_before_value i))
  | type | method | receiver | fault | crash => exact absurd hs (by decide)

/-- A command whose type is not registered. -/
theorem run_of_type (h : c.FailsFirst raw .type e) : c.run raw = .error e := by
  obtain ⟨hfails, hclears⟩ := h
  cases hfails with
  | @type cmd name hcmd hname hnone =>
    obtain ⟨cmd', op, q, hcmd', hop, hw⟩ := hclears.asked
    obtain rfl : cmd = cmd' := Except.ok.inj (hcmd.symm.trans hcmd')
    obtain rfl : q.type = name := Option.some.inj (hw.type_eq.symm.trans hname)
    have hasks : AsksFor raw q.type :=
      Query.asksFor_iff.2 ⟨q, Query.ofText_eq_ok_iff.2 ⟨cmd, op, hcmd, hop, hw⟩, rfl⟩
    have hfind : c.find? q.type = none := by
      refine Option.eq_none_iff_forall_ne_some.2 fun d hd => ?_
      obtain ⟨hmem, hdname⟩ := find?_eq_some hd
      exact hnone d hmem hdname
    rw [← runLogged_fst, runLogged_of_find?_eq_none hasks hfind]

/-- A call for which the type is registered goes on with the values and the method. -/
theorem ClearsBefore.prepare_eq (h : c.ClearsBefore raw (.value 0))
    (hcmd : Command.parse raw = .ok cmd) (hname : cmd.arguments[1]? = some name) :
    ∃ d ∈ c.types, cmd.arguments[0]? = some d.name ∧
      cmd.operation ≠ Operation.describe.name ∧
      c.prepare raw = do
        let args ← cmd.values.mapM RawValue.read
        let m ← d.staticMethod name (cmd.values.map RawValue.kind)
        return .call ⟨d, m, args⟩ := by
  obtain ⟨cmd', hcmd', d, hd, htype, hcase⟩ := h.resolved
  obtain rfl : cmd = cmd' := Except.ok.inj (hcmd.symm.trans hcmd')
  refine ⟨d, hd, htype, ?_⟩
  rcases hcase with ⟨-, hnone, -⟩ | ⟨name', hop, hname', hprepare⟩
  · rw [hname] at hnone
    cases hnone
  · obtain rfl : name = name' := Option.some.inj (hname.symm.trans hname')
    exact ⟨hop, hprepare⟩

/-- Up to the method all values have been read. -/
theorem ClearsBefore.values_read (h : c.ClearsBefore raw .method)
    (hcmd : Command.parse raw = .ok cmd) : cmd.values.mapM RawValue.read = .ok cmd.args := by
  refine RawValue.mapM_read_of_forall fun v hv hnone => ?_
  obtain ⟨i, hi⟩ := Command.exists_value?_of_mem hv
  exact h _ (Stage.value_before_method i) _ (.value hcmd hi hnone)

/-- To fail at a stage from the first value to the receiver is to have nothing prepared. -/
theorem prepare_of_failsFirst (h : c.FailsFirst raw s e) (hs : ¬s.Before .type)
    (hne : s ≠ .type) (hbody : s ≠ .body) : c.prepare raw = .error e := by
  obtain ⟨hfails, hclears⟩ := h
  cases hfails with
  | @value cmd i v hcmd hv hnone =>
    have hfirst : c.ClearsBefore raw (.value 0) := by
      match i, hclears with
      | 0, hclears => exact hclears
      | 1, hclears => exact hclears.mono (by decide)
    obtain ⟨name, hname⟩ := Command.exists_method_of_value? hv
    obtain ⟨d, -, -, -, hprepare⟩ := hfirst.prepare_eq hcmd hname
    obtain ⟨before, after, hsplit, hbefore⟩ := Command.exists_values_eq_append hv
    have hread : ∀ w ∈ before, Argument.read? w.kind w.raw ≠ none := by
      intro w hw hnone'
      obtain ⟨j, hj, hwj⟩ := hbefore w hw
      exact hclears _ (Stage.value_before_value i j hj) _ (.value hcmd hwj hnone')
    rw [hprepare, hsplit, RawValue.mapM_read_of_append hread hnone]
    rfl
  | @method cmd d name hcmd hd htype hname hnone =>
    obtain ⟨d', hd', htype', -, hprepare⟩ :=
      (hclears.mono (s := .value 0) (by decide)).prepare_eq hcmd hname
    obtain rfl : d = d' := eq_of_named hd hd' (htype.symm.trans htype')
    have hmethod : d.staticMethod name (cmd.values.map RawValue.kind) =
        .error (.unknownMethod d.name name (cmd.values.map RawValue.kind)) := by
      rw [TypeDecl.staticMethod, TypeDecl.findMethod?_eq_none_iff.2 hnone]
    rw [hprepare, hclears.values_read hcmd, hmethod]
    rfl
  | @receiver cmd d m hcmd hcalls hinstance =>
    obtain ⟨d', hd', htype', -, hprepare⟩ :=
      (hclears.mono (s := .value 0) (by decide)).prepare_eq hcmd hcalls.method_named
    obtain rfl : d = d' := eq_of_named hcalls.registered hd' (hcalls.type_named.symm.trans htype')
    have hmethod : d.staticMethod m.name (cmd.values.map RawValue.kind) =
        .error (.notStatic d.name m.name) := by
      simp [TypeDecl.staticMethod, hcalls.findMethod?, Method.isStatic, hinstance]
    rw [hprepare, (hclears.mono (s := .method) (by decide)).values_read hcmd, hmethod]
    rfl
  | type => exact absurd rfl hne
  | fault | crash => exact absurd rfl hbody
  | @token _ i => exact absurd (Stage.token_before_type i) hs
  | blank | malformed | operation | count => exact absurd (by decide) hs

/-- A call that gets as far as the body comes to what the body comes to. -/
theorem ClearsBefore.run_eq {body : List Argument → Outcome} (h : c.ClearsBefore raw .body)
    (hcmd : Command.parse raw = .ok cmd) (hcalls : Calls c cmd d m)
    (hbody : m.body = .static body) : c.run raw = (body cmd.args).result.map .value := by
  obtain ⟨d', hd', htype', -, hprepare⟩ :=
    (h.mono (s := .value 0) (by decide)).prepare_eq hcmd hcalls.method_named
  obtain rfl : d = d' := eq_of_named hcalls.registered hd' (hcalls.type_named.symm.trans htype')
  have hmethod : d.staticMethod m.name (cmd.values.map RawValue.kind) = .ok m := by
    simp [TypeDecl.staticMethod, hcalls.findMethod?, Method.isStatic, hbody]
  have hcall : c.prepare raw = .ok (.call ⟨d, m, cmd.args⟩) := by
    rw [hprepare, (h.mono (s := .method) (by decide)).values_read hcmd, hmethod]
    rfl
  rw [← runLogged_fst, runLogged_of_call hcall hbody]

/-- **The first failure answers.** -/
theorem run_of_failsFirst (h : c.FailsFirst raw s e) : c.run raw = .error e := by
  by_cases hbefore : s.Before .type
  · exact run_of_ofText (ofText_of_failsFirst h hbefore)
  by_cases htype : s = .type
  · exact run_of_type (htype ▸ h)
  by_cases hbody : s = .body
  · subst hbody
    obtain ⟨hfails, hclears⟩ := h
    cases hfails with
    | fault hcmd hcalls hbody hf =>
      rw [hclears.run_eq hcmd hcalls hbody, hf]
      rfl
    | crash hcmd hcalls hbody hf =>
      rw [hclears.run_eq hcmd hcalls hbody, hf]
      rfl
  · rw [← runLogged_fst, runLogged_of_error (prepare_of_failsFirst h hbefore htype hbody)]

/-! ### Failing nowhere -/

/-- A command that fails nowhere has a result. -/
theorem exists_yields (h : ∀ s, c.Clears raw s) : ∃ r, c.run raw = .ok r ∧ c.Yields raw r := by
  have hbefore : ∀ s, c.ClearsBefore raw s := fun _ t _ => h t
  obtain ⟨cmd, hcmd, d, hd, htype, hcase⟩ := (hbefore (.value 0)).resolved
  rcases hcase with ⟨hop, -, hprepare⟩ | ⟨name, hop, hname, -⟩
  · refine ⟨.members d, ?_, .describe hcmd hop hd htype⟩
    rw [← runLogged_fst, runLogged_of_describe hprepare]
  · obtain ⟨m, hfind⟩ : ∃ m, d.findMethod? name (cmd.values.map RawValue.kind) = some m := by
      refine Option.ne_none_iff_exists'.1 fun hnone => ?_
      exact h .method _
        (.method hcmd hd htype hname (TypeDecl.findMethod?_eq_none_iff.1 hnone))
    obtain ⟨⟨rfl, hparams⟩, hfirst⟩ := TypeDecl.findMethod?_eq_some_iff.1 hfind
    have hcalls : Calls c cmd d m := ⟨hd, htype, hname, ⟨rfl, hparams⟩, hfirst⟩
    cases hbody : m.body with
    | onInstance => exact absurd (.receiver hcmd hcalls hbody) (h .receiver _)
    | static body =>
      have hrun := (hbefore .body).run_eq hcmd hcalls hbody
      cases hout : body cmd.args with
      | value v =>
        refine ⟨.value v, ?_, .call hcmd hop hcalls hbody hout⟩
        rw [hrun, hout]
        rfl
      | fault f => exact absurd (.fault hcmd hcalls hbody hout) (h .body _)
      | crash message => exact absurd (.crash hcmd hcalls hbody hout) (h .body _)

/-- A command has no two results. -/
theorem Yields.unique {r r' : Result} (h : c.Yields raw r) (h' : c.Yields raw r') : r = r' := by
  cases h with
  | @describe cmd d hcmd hop hd htype =>
    cases h' with
    | @describe cmd' d' hcmd' hop' hd' htype' =>
      obtain rfl : cmd = cmd' := Except.ok.inj (hcmd.symm.trans hcmd')
      rw [eq_of_named hd hd' (htype.symm.trans htype')]
    | call hcmd' hop' =>
      obtain rfl := Except.ok.inj (hcmd.symm.trans hcmd')
      exact absurd hop hop'
  | @call cmd d m body v hcmd hop hcalls hbody hv =>
    cases h' with
    | describe hcmd' hop' =>
      obtain rfl := Except.ok.inj (hcmd.symm.trans hcmd')
      exact absurd hop' hop
    | @call cmd' d' m' body' v' hcmd' hop' hcalls' hbody' hv' =>
      obtain rfl : cmd = cmd' := Except.ok.inj (hcmd.symm.trans hcmd')
      obtain rfl : d = d' := eq_of_named hcalls.registered hcalls'.registered
        (hcalls.type_named.symm.trans hcalls'.type_named)
      -- both are the first method with the name
      have hname : m.name = m'.name :=
        Option.some.inj (hcalls.method_named.symm.trans hcalls'.method_named)
      have hfind := hcalls.findMethod?
      rw [hname, hcalls'.findMethod?] at hfind
      obtain rfl := Option.some.inj hfind
      obtain rfl : body = body' := MethodBody.static.inj (hbody.symm.trans hbody')
      rw [Outcome.value.inj (hv.symm.trans hv')]

/-! ### The answer -/

theorem clears_of_run_eq_ok {r : Result} (h : c.run raw = .ok r) : ∀ s, c.Clears raw s := by
  intro s e hfails
  obtain ⟨s', e', hfirst⟩ := exists_failsFirst hfails
  rw [run_of_failsFirst hfirst] at h
  cases h

/-- A run that fails has failed somewhere, so first at some stage, and with the error of this
stage. -/
theorem run_eq_error_iff : c.run raw = .error e ↔ ∃ s, c.FailsFirst raw s e := by
  constructor
  · intro h
    obtain ⟨s, e', hfails⟩ : ∃ s e', c.Fails raw s e' := by
      by_contra hnone
      obtain ⟨r, hr, -⟩ := exists_yields fun s e' hfails => hnone ⟨s, e', hfails⟩
      rw [hr] at h
      cases h
    obtain ⟨s', e'', hfirst⟩ := exists_failsFirst hfails
    have hrun := run_of_failsFirst hfirst
    rw [h] at hrun
    obtain rfl := Except.error.inj hrun
    exact ⟨s', hfirst⟩
  · rintro ⟨s, hfirst⟩
    exact run_of_failsFirst hfirst

theorem run_eq_ok_iff {r : Result} :
    c.run raw = .ok r ↔ (∀ s, c.Clears raw s) ∧ c.Yields raw r := by
  constructor
  · intro h
    have hclears := clears_of_run_eq_ok h
    obtain ⟨r', hr', hyields⟩ := exists_yields hclears
    rw [h] at hr'
    obtain rfl := Except.ok.inj hr'
    exact ⟨hclears, hyields⟩
  · rintro ⟨hclears, hyields⟩
    obtain ⟨r', hr', hyields'⟩ := exists_yields hclears
    rw [hr', hyields.unique hyields']

/-- **The first stage at which a command fails decides its answer**, whatever the later ones would
say. A run fails with the error of that stage, and with no other; it succeeds just if the command
fails at no stage, with the value of the body of the method that is called, or with the declaration
of the type. A failure is answered with the wording of its error, and a declaration with its
description. -/
theorem run_first_failure (c : Catalog) (raw : Text) :
    (∀ e, c.run raw = .error e ↔ ∃ s, c.FailsFirst raw s e) ∧
    (∀ r, c.run raw = .ok r ↔ (∀ s, c.Clears raw s) ∧ c.Yields raw r) ∧
    ((∀ s, c.Clears raw s) → ∃ r, c.Yields raw r) ∧
    (∀ e, c.run raw = .error e → c.answer raw = .error (sanitize e.text)) ∧
    (∀ v, c.run raw = .ok (.value v) → c.answer raw = .value v.sanitized) ∧
    ∀ d, c.run raw = .ok (.members d) → c.answer raw = .description (.ofDecl d) := by
  refine ⟨fun e => run_eq_error_iff, fun r => run_eq_ok_iff, ?_, ?_, ?_, ?_⟩
  · intro hclears
    obtain ⟨r, -, hyields⟩ := exists_yields hclears
    exact ⟨r, hyields⟩
  · intro e he
    rw [answer, he]
    rfl
  · intro v hv
    rw [answer, hv]
    rfl
  · intro d hd
    rw [answer, hd]
    rfl

/-- A bad token is told before a type that is not registered, and this before a bad value. -/
example : (ofList []).run "binaryInvoke(T, m, int, x, float, 1)" =
      .error (.unsupportedType "float") ∧
    (ofList []).run "binaryInvoke(T, m, int, x, int, 1)" = .error (.unknownType "T") :=
  ⟨rfl, rfl⟩

end Catalog

end ReflectCalc
