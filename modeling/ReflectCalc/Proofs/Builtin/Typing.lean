import ReflectCalc.Proofs.Builtin.ParseInt

/-!
# The signatures of the built-in methods

Every built-in method is declared with a signature, and its body reads its arguments by position and
kind without looking at the signature. That the two agree is a fact on each declaration.

* `HasType` are the values of a declared type, and `Lawful` is what a body may come to: a value of
  the type that its method returns, null where this is allowed, or a fault of arithmetic or of
  numerals;
* `Sound` says that a method is lawful on all arguments that it accepts. There is one lemma for each
  of the shapes in which methods are declared, and so a declaration is sound if the function inside
  it is typed;
* `Orderly` are the computations that do not crash and raise no other faults.

`catalog_sound` is the main result: all declarations are sound, and so a command is never answered
with a crash or with a mismatch of arguments.
-/

namespace ReflectCalc.Builtin

/-! ### Typed values and lawful outcomes -/

/-- The values of a declared type. The object of a number or of a truth value is the value itself. -/
def HasType : Value → TypeRef → Prop
  | .int _, t => t = .int ∨ t = integerBox
  | .long _, t => t = .long
  | .double _, t => t = .double ∨ t = doubleBox
  | .bool _, t => t = .boolean ∨ t = booleanBox
  | .text _, t => t = .string
  | .null, _ => False

/-- The faults of arithmetic and of numerals. -/
def Numeric (f : Fault) : Prop :=
  f.category = "ArithmeticException" ∨ f.category = "NumberFormatException"

/-- What the body of a method of some type may come to. -/
inductive Lawful (type : Text) (m : Method) : Outcome → Prop where
  | value {v : Value} (h : HasType v m.returns) : Lawful type m (.value v)
  | null (htype : type = "java.lang.System") (hname : m.name = "getProperty") :
    Lawful type m (.value .null)
  | fault {f : Fault} (h : Numeric f) : Lawful type m (.fault f)

/-- A method is lawful on all arguments that it accepts, or has no body. -/
def Sound (type : Text) (m : Method) : Prop :=
  ∀ body args, m.body = .static body → m.accepts (args.map Argument.kind) = true →
    Lawful type m (body args)

/-- A computation that returns or raises a fault of arithmetic or of numerals. -/
def Orderly {α : Type} (x : Except Failure α) : Prop :=
  (∃ a, x = .ok a) ∨ ∃ f, x = .error (.fault f) ∧ Numeric f

section Orderly

variable {α β : Type} {x : Except Failure α}

theorem orderly_exactly (n : Int) : Orderly (exactly n) := by
  unfold exactly
  split
  · exact .inl ⟨_, rfl⟩
  · exact .inr ⟨_, rfl, .inl rfl⟩

theorem orderly_floorDiv (x y : Int32) : Orderly (floorDiv x y) := by
  by_cases hy : y = 0
  · rw [floorDiv, if_pos hy]
    exact .inr ⟨_, rfl, .inl rfl⟩
  · exact .inl ⟨_, floorDiv_eq hy⟩

theorem Orderly.map (h : Orderly x) (f : α → β) : Orderly (x.map f) := by
  rcases h with ⟨a, rfl⟩ | ⟨e, rfl, he⟩
  · exact .inl ⟨f a, rfl⟩
  · exact .inr ⟨e, rfl, he⟩

theorem orderly_floorMod (x y : Int32) : Orderly (floorMod x y) :=
  (orderly_floorDiv x y).map fun q => x - q * y

theorem orderly_parseInt (t : Text) (radix : Int32) : Orderly (parseInt t radix) :=
  (exists_parseInt t radix).imp_right fun ⟨f, h, hf⟩ => ⟨f, h, .inr hf⟩

theorem orderly_parseDouble (t : Text) : Orderly ((parseDouble t).mapError .fault) := by
  unfold parseDouble
  split
  · exact .inr ⟨_, rfl, .inr rfl⟩
  · cases Double.read? t with
    | some d => exact .inl ⟨d, rfl⟩
    | none => exact .inr ⟨_, rfl, .inr rfl⟩

end Orderly

/-! ### Methods by the shape of their parameters -/

/-- The arguments of a declared type are those that are made in this way. -/
def Binds {α : Type} (p : TypeRef) (make : α → Argument) : Prop :=
  ∀ a : Argument, a.kind.param = p → ∃ x, a = make x

theorem binds_int : Binds .int .int := by
  intro a h
  cases a with
  | int x => exact ⟨x, rfl⟩
  | double d => cases h
  | text t => cases h

theorem binds_double : Binds .double .double := by
  intro a h
  cases a with
  | int x => cases h
  | double d => exact ⟨d, rfl⟩
  | text t => cases h

theorem binds_text : Binds .string .text := by
  intro a h
  cases a with
  | int x => cases h
  | double d => cases h
  | text t => exact ⟨t, rfl⟩

/-- A computation that returns a value of a type or raises a fault of arithmetic or of numerals. -/
def Typed (returns : TypeRef) (x : Except Failure Value) : Prop :=
  (∃ v, x = .ok v ∧ HasType v returns) ∨ ∃ f, x = .error (.fault f) ∧ Numeric f

section Shapes

variable {α β : Type} {type name : Text} {returns : TypeRef} {m : Method}

theorem Orderly.typed {x : Except Failure α} (h : Orderly x) {f : α → Value}
    (hf : ∀ a, HasType (f a) returns) : Typed returns (x.map f) := by
  rcases h with ⟨a, rfl⟩ | ⟨e, rfl, he⟩
  · exact .inl ⟨f a, rfl, hf a⟩
  · exact .inr ⟨e, rfl, he⟩

theorem lawful_ofExcept {x : Except Failure Value} (h : Typed m.returns x) :
    Lawful type m (Outcome.ofExcept x) := by
  rcases h with ⟨v, rfl, hv⟩ | ⟨f, rfl, hf⟩
  · exact .value hv
  · exact .fault hf

theorem sound_static {params : List TypeRef} {body : List Argument → Except Failure Value}
    (h : ∀ args, params = args.map (fun a => a.kind.param) →
      Lawful type (static returns name params body) (Outcome.ofExcept (body args))) :
    Sound type (static returns name params body) := by
  intro _ args hbody haccepts
  cases hbody
  apply h args
  have hparams : params = (args.map Argument.kind).map Kind.param := beq_iff_eq.1 haccepts
  rw [hparams, List.map_map]
  rfl

theorem sound_onInstance {params : List TypeRef} :
    Sound type (onInstance returns name params) := by
  intro body args hbody
  cases hbody

theorem sound_ofNothing {v : Value} (h : HasType v returns) :
    Sound type (static returns name [] fun _ => .ok v) :=
  sound_static fun _ _ => .value h

section Readers

variable {p q : TypeRef} {make : α → Argument} {make' : β → Argument}
  {body : List Argument → Except Failure Value}

theorem sound_one (hp : Binds p make)
    (h : ∀ x, Lawful type (static returns name [p] body) (Outcome.ofExcept (body [make x]))) :
    Sound type (static returns name [p] body) := by
  apply sound_static
  intro args hargs
  obtain ⟨a, _, rfl, ha, hrest⟩ := List.map_eq_cons_iff.1 hargs.symm
  obtain rfl := List.map_eq_nil_iff.1 hrest
  obtain ⟨x, rfl⟩ := hp a ha
  exact h x

theorem sound_two (hp : Binds p make) (hq : Binds q make')
    (h : ∀ x y,
      Lawful type (static returns name [p, q] body) (Outcome.ofExcept (body [make x, make' y]))) :
    Sound type (static returns name [p, q] body) := by
  apply sound_static
  intro args hargs
  obtain ⟨a, _, rfl, ha, hrest⟩ := List.map_eq_cons_iff.1 hargs.symm
  obtain ⟨b, _, rfl, hb, hrest⟩ := List.map_eq_cons_iff.1 hrest
  obtain rfl := List.map_eq_nil_iff.1 hrest
  obtain ⟨x, rfl⟩ := hp a ha
  obtain ⟨y, rfl⟩ := hq b hb
  exact h x y

end Readers

theorem sound_ofInt {f : Int32 → Value} (h : ∀ x, HasType (f x) returns) :
    Sound type (ofInt returns name f) :=
  sound_one binds_int fun x => .value (h x)

theorem sound_ofInt? {f : Int32 → Except Failure Int32} (h : ∀ x, Orderly (f x))
    (hreturns : ∀ n, HasType (.int n) returns) : Sound type (ofInt? returns name f) :=
  sound_one binds_int fun x => lawful_ofExcept ((h x).typed hreturns)

theorem sound_ofInts {f : Int32 → Int32 → Value} (h : ∀ x y, HasType (f x y) returns) :
    Sound type (ofInts returns name f) :=
  sound_two binds_int binds_int fun x y => .value (h x y)

theorem sound_ofInts? {f : Int32 → Int32 → Except Failure Int32}
    (h : ∀ x y, Orderly (f x y)) (hreturns : ∀ n, HasType (.int n) returns) :
    Sound type (ofInts? returns name f) :=
  sound_two binds_int binds_int fun x y => lawful_ofExcept ((h x y).typed hreturns)

theorem sound_ofDouble {f : Double → Value} (h : ∀ d, HasType (f d) returns) :
    Sound type (ofDouble returns name f) :=
  sound_one binds_double fun d => .value (h d)

theorem sound_ofDoubles {f : Double → Double → Value} (h : ∀ d e, HasType (f d e) returns) :
    Sound type (ofDoubles returns name f) :=
  sound_two binds_double binds_double fun d e => .value (h d e)

theorem sound_ofText {f : Text → Value} (h : ∀ t, HasType (f t) returns) :
    Sound type (ofText returns name f) :=
  sound_one binds_text fun t => .value (h t)

theorem sound_ofText? {f : Text → Except Failure Value} (h : ∀ t, Typed returns (f t)) :
    Sound type (ofText? returns name f) :=
  sound_one binds_text fun t => lawful_ofExcept (h t)

end Shapes

/-! ### The declarations -/

section Declarations

variable {returns : TypeRef} {type : Text}

theorem typed_parseInt {radix : Int32} (h : ∀ n, HasType (.int n) returns) (t : Text) :
    Typed returns (do return .int (← parseInt t radix)) :=
  (orderly_parseInt t radix).typed h

theorem typed_parseDouble (h : ∀ d, HasType (.double d) returns) (t : Text) :
    Typed returns (do return .double (← parseDouble t)) :=
  (orderly_parseDouble t).typed h

theorem sound_math (r : Readings) : ∀ m ∈ (math r).methods, Sound type m := by
  rw [← List.forall_iff_forall_mem]
  have hint : ∀ n, HasType (.int n) .int := fun _ => .inl rfl
  have hdouble : ∀ d, HasType (.double d) .double := fun _ => .inl rfl
  exact ⟨
    -- absolute values, extremes and powers
    sound_ofInt fun _ => hint _, sound_ofDouble fun _ => hdouble _,
    sound_ofInts fun _ _ => hint _, sound_ofDoubles fun _ _ => hdouble _,
    sound_ofInts fun _ _ => hint _, sound_ofDoubles fun _ _ => hdouble _,
    sound_ofDoubles fun _ _ => hdouble _, sound_ofDouble fun _ => hdouble _,
    sound_ofDouble fun _ => hdouble _, sound_ofDoubles fun _ _ => hdouble _,
    -- rounding
    sound_ofDouble fun _ => hdouble _, sound_ofDouble fun _ => hdouble _,
    sound_ofDouble fun _ => rfl, sound_ofDouble fun _ => hdouble _,
    -- transcendental functions and angles
    sound_ofDouble fun _ => hdouble _, sound_ofDouble fun _ => hdouble _,
    sound_ofDouble fun _ => hdouble _, sound_ofDouble fun _ => hdouble _,
    sound_ofDouble fun _ => hdouble _, sound_ofDouble fun _ => hdouble _,
    sound_ofDouble fun _ => hdouble _, sound_ofDouble fun _ => hdouble _,
    sound_ofNothing (hdouble _),
    -- exact operations
    sound_ofInts? orderly_floorDiv hint, sound_ofInts? orderly_floorMod hint,
    sound_ofInts? (fun _ _ => orderly_exactly _) hint,
    sound_ofInts? (fun _ _ => orderly_exactly _) hint,
    sound_ofInts? (fun _ _ => orderly_exactly _) hint,
    sound_ofInt? (fun _ => orderly_exactly _) hint⟩

theorem sound_integer : ∀ m ∈ integer.methods, Sound type m := by
  rw [← List.forall_iff_forall_mem]
  have hint : ∀ n, HasType (.int n) .int := fun _ => .inl rfl
  have hbox : ∀ n, HasType (.int n) integerBox := fun _ => .inr rfl
  refine ⟨sound_ofText? (typed_parseInt hint), ?_, sound_ofInt hbox,
    sound_ofText? (typed_parseInt hbox),
    sound_ofInt fun _ => rfl, sound_ofInt fun _ => rfl, sound_ofInt fun _ => rfl,
    sound_ofInt fun _ => rfl,
    sound_ofInt fun _ => hint _, sound_ofInt fun _ => hint _, sound_ofInt fun _ => hint _,
    sound_ofInts fun _ _ => hint _, sound_ofInts fun _ _ => hint _, sound_ofInts fun _ _ => hint _,
    sound_ofInts fun _ _ => hint _,
    sound_onInstance, sound_onInstance, sound_onInstance, sound_onInstance⟩
  -- the method with a base takes a text and an integer, which no other does
  apply sound_two binds_text binds_int
  intro t radix
  exact lawful_ofExcept (typed_parseInt hint t)

theorem sound_real : ∀ m ∈ real.methods, Sound type m := by
  rw [← List.forall_iff_forall_mem]
  have hdouble : ∀ d, HasType (.double d) .double := fun _ => .inl rfl
  have hbox : ∀ d, HasType (.double d) doubleBox := fun _ => .inr rfl
  exact ⟨sound_ofText? (typed_parseDouble hdouble), sound_ofDouble hbox,
    sound_ofText? (typed_parseDouble hbox),
    sound_ofDouble fun _ => rfl, sound_ofDouble fun _ => .inl rfl, sound_ofDouble fun _ => .inl rfl,
    sound_ofDouble fun _ => .inl rfl,
    sound_ofDoubles fun _ _ => .inl rfl, sound_ofDoubles fun _ _ => hdouble _,
    sound_ofDoubles fun _ _ => hdouble _, sound_ofDoubles fun _ _ => hdouble _,
    sound_onInstance, sound_onInstance, sound_onInstance⟩

theorem sound_boolean : ∀ m ∈ boolean.methods, Sound type m := by
  rw [← List.forall_iff_forall_mem]
  exact ⟨sound_ofText fun _ => .inl rfl, sound_ofText fun _ => .inr rfl, sound_onInstance⟩

theorem sound_string : ∀ m ∈ string.methods, Sound type m := by
  rw [← List.forall_iff_forall_mem]
  exact ⟨sound_ofInt fun _ => rfl, sound_ofDouble fun _ => rfl, sound_onInstance, sound_onInstance,
    sound_onInstance, sound_onInstance, sound_onInstance, sound_onInstance, sound_onInstance⟩

/-- Some of the properties that can be asked for are not there. -/
theorem sound_getProperty :
    Sound "java.lang.System" (ofText .string "getProperty" systemProperty) := by
  apply sound_one binds_text
  intro key
  show Lawful _ _ (.value (systemProperty key))
  unfold systemProperty
  split
  · exact .value rfl
  · exact .null rfl rfl

theorem sound_system (r : Readings) : ∀ m ∈ (system r).methods, Sound "java.lang.System" m := by
  rw [← List.forall_iff_forall_mem]
  exact ⟨sound_ofNothing rfl, sound_ofNothing rfl, sound_ofNothing rfl, sound_getProperty⟩

theorem sound_of_mem (r : Readings) :
    ∀ d ∈ (catalog r).types, ∀ m ∈ d.methods, Sound d.name m := by
  have htypes : (catalog r).types = [boolean, real, integer, math r, string, system r] := rfl
  rw [htypes, ← List.forall_iff_forall_mem]
  exact ⟨sound_boolean, sound_real, sound_integer, sound_math r, sound_string, sound_system r⟩

end Declarations

/-! ### Commands -/

theorem Lawful.numeric {type : Text} {m : Method} {outcome : Outcome} {e : EngineError}
    (hlawful : Lawful type m outcome) (h : outcome.result.map Result.value = .error e) :
    (∀ message, e ≠ .crash message) ∧ ∀ f, e = .fault f → Numeric f := by
  cases hlawful with
  | value hv => cases h
  | null htype hname => cases h
  | fault hf =>
    cases h
    constructor
    · intro message heq
      cases heq
    · intro f heq
      cases heq
      exact hf

/-- **What a command can get from methods that are sound.** -/
theorem numeric_of_run {c : Catalog} {raw : Text} {e : EngineError}
    (hsound : ∀ d ∈ c.types, ∀ m ∈ d.methods, Sound d.name m) (h : c.run raw = .error e) :
    (∀ message, e ≠ .crash message) ∧ ∀ f, e = .fault f → Numeric f := by
  rw [← Catalog.runLogged_fst] at h
  rcases Catalog.runLogged_cases c raw with
    ⟨e', hp, hr⟩ | ⟨d, hp, hr⟩ | ⟨call, body, hp, hbody, hr⟩
  · -- the body has not been reached
    rw [hr] at h
    obtain rfl := Except.error.inj h
    have hno := Catalog.ofBody_of_prepare hp
    constructor
    · rintro message rfl
      cases hno
    · rintro f rfl
      cases hno
  · rw [hr] at h
    cases h
  · -- what is run is admitted, so the method is one of those that are sound
    obtain ⟨cmd, -, hadmits⟩ := Catalog.admits_of_prepare hp hbody
    obtain ⟨before, after, hmethods, -⟩ := hadmits.first
    have hm : call.method ∈ call.type.methods := by
      rw [hmethods]
      exact List.mem_append_right _ List.mem_cons_self
    have haccepts : call.method.accepts (call.args.map Argument.kind) = true := by
      rw [Method.accepts, ← hadmits.typed, List.map_map]
      exact beq_self_eq_true _
    have hlawful := hsound _ hadmits.registered _ hm body call.args hbody haccepts
    rw [hr] at h
    exact hlawful.numeric h

theorem mem_of_mem_narrow {c : Catalog} {allowed : List Text} {d : TypeDecl}
    (h : d ∈ (c.narrow allowed).types) : d ∈ c.types := by
  unfold Catalog.narrow at h
  split at h
  · exact h
  · exact (List.mem_filter.1 h).1

/-- **The built-in catalog keeps its signatures.** -/
theorem catalog_sound (r : Readings) :
    (∀ d ∈ (catalog r).types, ∀ m ∈ d.methods, ∀ body args, m.body = .static body →
      m.accepts (args.map Argument.kind) = true → Lawful d.name m (body args)) ∧
    ∀ allowed raw e, ((catalog r).narrow allowed).run raw = .error e →
      (∀ message, e ≠ .crash message) ∧ ∀ f, e = .fault f → Numeric f := by
  refine ⟨sound_of_mem r, fun allowed raw e h => ?_⟩
  exact numeric_of_run (fun d hd => sound_of_mem r d (mem_of_mem_narrow hd)) h

/-- A text that is no numeral, given to a body and to a command. -/
theorem catalog_sound_badNumeral :
    (integer ∈ (catalog ⟨⟨0⟩, 0, 0⟩).types ∧ ∃ m ∈ integer.methods, ∃ body,
      m.body = .static body ∧ m.accepts [.text] = true ∧
      body [.text "x"] = .fault (.badNumeral "x") ∧ Lawful integer.name m (body [.text "x"])) ∧
    ((catalog ⟨⟨0⟩, 0, 0⟩).narrow ["java.lang.Integer"]).run
      "unaryInvoke(java.lang.Integer, parseInt, string, x)" = .error (.fault (.badNumeral "x")) ∧
    Numeric (.badNumeral "x") := by
  obtain ⟨hbodies, hcommands⟩ := catalog_sound ⟨⟨0⟩, 0, 0⟩
  have htype : integer ∈ (catalog ⟨⟨0⟩, 0, 0⟩).types := List.mem_of_getElem? (i := 2) rfl
  have hrun : ((catalog ⟨⟨0⟩, 0, 0⟩).narrow ["java.lang.Integer"]).run
      "unaryInvoke(java.lang.Integer, parseInt, string, x)" =
        .error (.fault (.badNumeral "x")) := rfl
  refine ⟨⟨htype, _, List.mem_cons_self, _, rfl, rfl, rfl, ?_⟩, hrun, ?_⟩
  · exact hbodies _ htype _ List.mem_cons_self _ [.text "x"] rfl rfl
  · exact (hcommands _ _ _ hrun).2 _ rfl

end ReflectCalc.Builtin
