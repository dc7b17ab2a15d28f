import ReflectCalc.Proofs.Catalog.Lookup
import ReflectCalc.Proofs.Engine.Stages

/-!
# What a command can make the engine run

A catalog holds the bodies of its static methods, and a command comes from outside. This module says
which bodies a command can have run, and on which arguments.

* `Catalog.runLogged` is the engine with a log of the activations that it asks for, in their order;
  it is `Catalog.runWith`, of which `Catalog.run` is the case without a log;
* `Catalog.Admits` is what an activation has to be: the body of the first declared method that the
  command names, registered and static, on arguments of just the declared types;
* `Catalog.bare` is the catalog with all its bodies taken out.

`Catalog.activations_admitted` says that the log never holds more than one activation, that this one
is admitted and decides the result, and that a failure that does not come from a body finds the log
empty.

A log alone does not show that nothing is run on the way to the activation, since the stages before
it are handed the whole catalog. That is what `bare` is for: every stage comes to the same with the
bodies taken out (`Catalog.bare_prepare`), so none of them has asked a body for anything.
-/

namespace ReflectCalc

/-! ### The log -/

/-- Runs the body of an activation and puts the activation on the log. -/
def Activation.logged (a : Activation) : StateM (List Activation) Outcome := do
  modify fun log => log ++ [a]
  return a.outcome

namespace Catalog

/-- Runs a command with a log of all activations. -/
def runLogged (c : Catalog) (raw : Text) : Except EngineError Result × List Activation :=
  (c.runWith Activation.logged raw).run []

/-- The activations of a command, in their order. -/
def activations (c : Catalog) (raw : Text) : List Activation := (c.runLogged raw).2

variable {c : Catalog} {raw : Text}

theorem runLogged_of_error {e : EngineError} (h : c.prepare raw = .error e) :
    c.runLogged raw = (.error e, []) := by
  unfold runLogged runWith
  rw [h]
  rfl

theorem runLogged_of_describe {d : TypeDecl} (h : c.prepare raw = .ok (.describe d)) :
    c.runLogged raw = (.ok (.members d), []) := by
  unfold runLogged runWith
  rw [h]
  rfl

theorem runLogged_of_call {call : Call} {body : List Argument → Outcome}
    (h : c.prepare raw = .ok (.call call)) (hbody : call.method.body = .static body) :
    c.runLogged raw = ((body call.args).result.map .value, [⟨body, call.args⟩]) := by
  unfold runLogged runWith
  rw [h]
  simp only [Prepared.runWith, Method.invokeWith, hbody]
  rfl

/-- **The three courses of a run.** A command fails in preparation, asks for a declaration, or has
one body run, and each time it is known what is logged. -/
theorem runLogged_cases (c : Catalog) (raw : Text) :
    (∃ e, c.prepare raw = .error e ∧ c.runLogged raw = (.error e, [])) ∨
    (∃ d, c.prepare raw = .ok (.describe d) ∧ c.runLogged raw = (.ok (.members d), [])) ∨
    ∃ call body, c.prepare raw = .ok (.call call) ∧ call.method.body = .static body ∧
      c.runLogged raw = ((body call.args).result.map .value, [⟨body, call.args⟩]) := by
  cases h : c.prepare raw with
  | error e => exact .inl ⟨e, rfl, runLogged_of_error h⟩
  | ok p =>
    cases p with
    | describe d => exact .inr (.inl ⟨d, rfl, runLogged_of_describe h⟩)
    | call call =>
      -- the method of a call is static, so it has a body to run
      obtain ⟨_, _, _, _, _, _, hm⟩ := prepare_eq_call h
      obtain ⟨⟨body, hbody⟩, -⟩ := TypeDecl.staticMethod_eq_ok hm
      exact .inr (.inr ⟨call, body, rfl, hbody, runLogged_of_call h hbody⟩)

/-- The log does not change the result. -/
theorem runLogged_fst (c : Catalog) (raw : Text) : (c.runLogged raw).1 = c.run raw := by
  rcases runLogged_cases c raw with ⟨e, hp, hr⟩ | ⟨d, hp, hr⟩ | ⟨call, body, hp, hbody, hr⟩
  · rw [hr, run, runWith, hp]
    rfl
  · rw [hr, run, runWith, hp]
    rfl
  · rw [hr, run, runWith, hp]
    simp only [Prepared.runWith, Method.invokeWith, hbody]
    rfl

/-! ### Admitted activations -/

/-- **What a command can have run.** The type that the command names first is registered. The method
that it names next is the first that this type declares with that name and those parameters, and it
is static. The arguments are as many as its parameters, each of the declared type; these are two at
most, and no others than the three types that a command can pass. -/
structure Admits (c : Catalog) (cmd : Command) (d : TypeDecl) (method : Method) (a : Activation) :
    Prop where
  registered : d ∈ c.types
  type_named : cmd.arguments[0]? = some d.name
  method_named : cmd.arguments[1]? = some method.name
  first : ∃ before after, d.methods = before ++ method :: after ∧
    ∀ m ∈ before, ¬(m.name = method.name ∧ m.params = method.params)
  static : method.body = .static a.body
  typed : a.args.map (fun arg => arg.kind.param) = method.params
  few : method.params.length ≤ 2
  bindable : ∀ p ∈ method.params, p = .int ∨ p = .double ∨ p = .string

/-- A call that is prepared is admitted. -/
theorem admits_of_prepare {call : Call} {body : List Argument → Outcome}
    (h : c.prepare raw = .ok (.call call)) (hbody : call.method.body = .static body) :
    ∃ cmd, Command.parse raw = .ok cmd ∧
      Admits c cmd call.type call.method ⟨body, call.args⟩ := by
  obtain ⟨type, name, values, hq, hd, hargs, hm⟩ := prepare_eq_call h
  obtain ⟨cmd, op, hcmd, -, hw⟩ := Query.ofText_eq_ok_iff.1 hq
  obtain ⟨htype, hname, hfew⟩ := hw.call_eq
  obtain ⟨hmem, rfl⟩ := find?_eq_some hd
  obtain ⟨-, rfl, hparams, hfirst⟩ := TypeDecl.staticMethod_eq_ok hm
  -- the kinds of the arguments are those of the values, which the parameters bind to
  have htyped : call.args.map (fun arg => arg.kind.param) = call.method.params := by
    rw [hparams, ← RawValue.map_kind_of_mapM_read hargs, List.map_map]
    rfl
  refine ⟨cmd, hcmd, hmem, htype, hname, hparams ▸ hfirst, hbody, htyped, ?_, ?_⟩
  · rw [hparams]
    simpa using hfew
  · intro p hp
    rw [← htyped] at hp
    obtain ⟨arg, -, rfl⟩ := List.mem_map.1 hp
    cases arg.kind with
    | int => exact .inl rfl
    | double => exact .inr (.inl rfl)
    | text => exact .inr (.inr rfl)

/-! ### What is on the log -/

theorem length_activations_le (c : Catalog) (raw : Text) : (c.activations raw).length ≤ 1 := by
  unfold activations
  rcases runLogged_cases c raw with ⟨e, -, hr⟩ | ⟨d, -, hr⟩ | ⟨call, body, -, -, hr⟩ <;>
    simp [hr]

/-- An activation on the log is admitted, and its outcome is the result. -/
theorem admits_of_mem_activations {a : Activation} (h : a ∈ c.activations raw) :
    (∃ cmd d method, Command.parse raw = .ok cmd ∧ c.Admits cmd d method a) ∧
      c.run raw = a.outcome.result.map .value := by
  rw [← runLogged_fst]
  unfold activations at h
  rcases runLogged_cases c raw with ⟨e, -, hr⟩ | ⟨d, -, hr⟩ | ⟨call, body, hp, hbody, hr⟩
  · simp [hr] at h
  · simp [hr] at h
  · rw [hr] at h ⊢
    obtain rfl := List.mem_singleton.1 h
    obtain ⟨cmd, hcmd, hadmits⟩ := admits_of_prepare hp hbody
    exact ⟨⟨cmd, call.type, call.method, hcmd, hadmits⟩, rfl⟩

/-- A failure comes from a body exactly if there is an activation on the log. -/
theorem ofBody_iff_activations {e : EngineError} (h : c.run raw = .error e) :
    e.ofBody = true ↔ c.activations raw ≠ [] := by
  rw [← runLogged_fst] at h
  unfold activations
  rcases runLogged_cases c raw with ⟨e', hp, hr⟩ | ⟨d, -, hr⟩ | ⟨call, body, -, -, hr⟩
  · -- a failure in preparation, and the log is empty
    rw [hr] at h ⊢
    obtain rfl := Except.error.inj h
    simp [ofBody_of_prepare hp]
  · rw [hr] at h
    cases h
  · -- a failure after the call, and the activation is on the log
    rw [hr] at h ⊢
    have hbody : e.ofBody = true := by
      cases hout : body call.args with
      | value v => simp [hout, Outcome.result, Except.map] at h
      | fault f =>
        obtain rfl : EngineError.fault f = e := by simpa [hout, Outcome.result, Except.map] using h
        rfl
      | crash message =>
        obtain rfl : EngineError.crash message = e := by
          simpa [hout, Outcome.result, Except.map] using h
        rfl
    simp [hbody]

end Catalog

/-! ### Without the bodies -/

/-- A method without its body. If it is static, whatever it is run on makes it crash. -/
def Method.bare (m : Method) : Method :=
  { m with body := match m.body with
    | .static _ => .static fun _ => .crash none
    | .onInstance => .onInstance }

/-- A type without the bodies of its methods. -/
def TypeDecl.bare (d : TypeDecl) : TypeDecl := { d with methods := d.methods.map Method.bare }

/-- What was prepared, without the bodies. -/
def Prepared.bare : Prepared → Prepared
  | describe d => describe d.bare
  | call c => call ⟨c.type.bare, c.method.bare, c.args⟩

namespace Method

@[simp] theorem isStatic_bare (m : Method) : m.bare.isStatic = m.isStatic := by
  unfold isStatic bare
  cases m.body <;> rfl

theorem bare_body {m : Method} {body : List Argument → Outcome} (h : m.body = .static body) :
    m.bare.body = .static fun _ => .crash none := by
  simp [bare, h]

end Method

namespace TypeDecl

variable {d : TypeDecl} {name : Text} {kinds : List Kind}

theorem findMethod?_bare :
    d.bare.findMethod? name kinds = (d.findMethod? name kinds).map Method.bare := by
  unfold findMethod? bare
  rw [List.find?_map]
  rfl

theorem staticMethod_bare :
    d.bare.staticMethod name kinds = (d.staticMethod name kinds).map Method.bare := by
  unfold staticMethod
  rw [findMethod?_bare]
  cases d.findMethod? name kinds with
  | none => rfl
  | some m =>
    simp only [Option.map_some, Method.isStatic_bare]
    split <;> rfl

/-- A client is told of the declarations only, not of the bodies. -/
theorem description_bare : Description.ofDecl d.bare = Description.ofDecl d := by
  unfold Description.ofDecl bare
  rw [List.map_map]
  rfl

end TypeDecl

namespace Catalog

/-- The catalog without the bodies. -/
def bare (c : Catalog) : Catalog where
  types := c.types.map TypeDecl.bare
  ascending := List.pairwise_map.2 c.ascending

variable {c : Catalog} {raw : Text}

theorem resolve_bare {name : Text} : c.bare.resolve name = (c.resolve name).map TypeDecl.bare := by
  have hfind : c.bare.find? name = (c.find? name).map TypeDecl.bare := by
    unfold find? bare
    rw [List.find?_map]
    rfl
  unfold resolve
  rw [hfind]
  cases c.find? name <;> rfl

/-- **No body is asked before the call.** The stages come to the same without the bodies. -/
theorem bare_prepare : c.bare.prepare raw = (c.prepare raw).map Prepared.bare := by
  unfold prepare
  cases Query.ofText raw with
  | error e => rfl
  | ok q =>
    change c.bare.prepareQuery q = (c.prepareQuery q).map Prepared.bare
    cases q with
    | describe type =>
      simp only [prepareQuery, resolve_bare]
      cases c.resolve type <;> rfl
    | call type method values =>
      -- the type and the method are found by their declarations, and values know of no body
      simp only [prepareQuery, resolve_bare]
      cases c.resolve type with
      | error e => rfl
      | ok d =>
        cases values.mapM RawValue.read with
        | error e => rfl
        | ok args =>
          simp only [Except.map, bind, Except.bind, TypeDecl.staticMethod_bare]
          cases d.staticMethod method (values.map RawValue.kind) <;> rfl

/-- Which arguments are handed over does not depend on any body. -/
theorem activations_bare :
    (c.activations raw).map Activation.args = (c.bare.activations raw).map Activation.args := by
  unfold activations
  rcases runLogged_cases c raw with ⟨e, hp, hr⟩ | ⟨d, hp, hr⟩ | ⟨call, body, hp, hbody, hr⟩
  · have hbare : c.bare.prepare raw = .error e := by rw [bare_prepare, hp]; rfl
    rw [hr, runLogged_of_error hbare]
  · have hbare : c.bare.prepare raw = .ok (.describe d.bare) := by rw [bare_prepare, hp]; rfl
    rw [hr, runLogged_of_describe hbare]
  · have hbare : c.bare.prepare raw
        = .ok (.call ⟨call.type.bare, call.method.bare, call.args⟩) := by rw [bare_prepare, hp]; rfl
    rw [hr, runLogged_of_call hbare (Method.bare_body hbody)]
    rfl

/-- Where no body is run the answer does not depend on any. -/
theorem answer_bare (h : c.activations raw = []) : c.answer raw = c.bare.answer raw := by
  unfold activations at h
  unfold answer
  rw [← runLogged_fst, ← runLogged_fst]
  rcases runLogged_cases c raw with ⟨e, hp, hr⟩ | ⟨d, hp, hr⟩ | ⟨call, body, hp, hbody, hr⟩
  · have hbare : c.bare.prepare raw = .error e := by rw [bare_prepare, hp]; rfl
    rw [hr, runLogged_of_error hbare]
  · have hbare : c.bare.prepare raw = .ok (.describe d.bare) := by rw [bare_prepare, hp]; rfl
    rw [hr, runLogged_of_describe hbare]
    simp only [Answer.ofOutcome, Answer.ofResult, TypeDecl.description_bare]
  · -- a call leaves an activation on the log
    rw [hr] at h
    cases h

/-! ### The safety of commands -/

/-- **A command runs at most one body, and only an admitted one.** The log leaves the result as it
is. It holds at most one activation, which is admitted and decides the result. A failure comes from a
body exactly if one has been run. And all this is settled before any body is asked: without the
bodies the same arguments are handed over, and where none are, the answer is the same. -/
theorem activations_admitted (c : Catalog) (raw : Text) :
    (c.runLogged raw).1 = c.run raw ∧
    (c.activations raw).length ≤ 1 ∧
    (∀ a ∈ c.activations raw,
      (∃ cmd d method, Command.parse raw = .ok cmd ∧ c.Admits cmd d method a) ∧
      c.run raw = a.outcome.result.map .value) ∧
    (∀ e, c.run raw = .error e → (e.ofBody = true ↔ c.activations raw ≠ [])) ∧
    (c.activations raw).map Activation.args = (c.bare.activations raw).map Activation.args ∧
    (c.activations raw = [] → c.answer raw = c.bare.answer raw) := by
  exact ⟨runLogged_fst c raw, length_activations_le c raw, fun a ha => admits_of_mem_activations ha,
    fun e he => ofBody_iff_activations he, activations_bare, answer_bare⟩

/-- A static method is out of reach behind one of an object with its name and parameters. -/
example :
    (ofList [⟨"T", [], [⟨"m", .void, [], .onInstance⟩,
      ⟨"m", .void, [], .static fun _ => .crash none⟩]⟩]).runLogged "invoke(T, m)"
      = (.error (.notStatic "T" "m"), []) := rfl

end Catalog

end ReflectCalc
