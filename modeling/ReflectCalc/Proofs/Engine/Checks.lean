import Mathlib.Data.Fin.Basic
import Mathlib.Data.List.Basic
import ReflectCalc.Proofs.Engine.AllowList
import ReflectCalc.Proofs.Engine.QuotedValues

/-!
# The checks of the engine, one by one

When each part of the engine refuses its input, and with what. Each statement is about one part and
what it is handed, and speaks of the input rather than of the way it is checked.

* `Command.parse` refuses white space, and a text in which no closing parenthesis stands behind an
  opening one;
* `Query.ofOperation` refuses a wrong number of arguments, then the first token that names no kind;
* `Command.values` are the values of a command, and of several that cannot be read the first is
  refused (`RawValue.mapM_read_of_append`);
* `Method.Matches` is what a method has to be that is looked up, and the first of these is found
  (`TypeDecl.findMethod?_eq_some_iff`);
* `Catalog.call` is what is left of a call whose values have been read (`Catalog.run_of_query`).
-/

namespace ReflectCalc

/-! ### The grammar -/

namespace Command

variable {raw t : Text}

/-- A pair of parentheses is found if there is one. -/
theorem parenthesised?_eq_none_iff :
    parenthesised? t = none ↔ ¬List.Sublist ['(', ')'] t := by
  unfold parenthesised?
  by_cases hopen : '(' ∈ t
  · obtain ⟨front, rest, rfl, hfront⟩ := List.eq_append_cons_of_mem hopen
    -- a closing one is behind some opening one just if it is behind the first
    have hsub : List.Sublist ['(', ')'] (front ++ '(' :: rest) ↔ ')' ∈ rest := by
      clear hopen
      induction front with
      | nil => simp
      | cons a front ih =>
        have ha : '(' ≠ a := List.ne_of_not_mem_cons hfront
        rw [List.cons_append, List.sublist_cons_iff, ih (List.not_mem_of_not_mem_cons hfront)]
        simp [ha]
    rw [Text.splitOnce_append hfront, hsub, ← Text.splitLast_eq_none_iff]
    cases hclose : Text.splitLast ')' rest <;> simp [hclose]
  · have hsub : ¬List.Sublist ['(', ')'] t := fun h => hopen (h.subset List.mem_cons_self)
    simp [Text.splitOnce_of_not_mem hopen, hsub]

/-- Trimming takes no parenthesis away. -/
theorem sublist_trim_iff : List.Sublist ['(', ')'] raw.trim ↔ List.Sublist ['(', ')'] raw := by
  obtain ⟨v, w, hv, -, hw, hraw⟩ := Text.exists_eq_trim_between raw
  have hnone : ∀ {u : Text}, Text.Blank u → u.filter (fun c => !Text.isBlank c) = [] := by
    intro u hu
    exact List.filter_eq_nil_iff.2 fun c hc => by simp [hu c hc]
  constructor
  · intro h
    rw [hraw]
    exact h.trans ((List.sublist_append_right v _).trans (List.sublist_append_left _ w))
  · intro h
    have hfilter := h.filter fun c => !Text.isBlank c
    rw [hraw, List.filter_append, List.filter_append, hnone hv, hnone hw,
      List.append_nil] at hfilter
    exact hfilter.trans List.filter_sublist

theorem parse_of_blank (h : Text.Blank raw) : parse raw = .error .empty := by
  rw [parse, if_pos (Text.trim_eq_nil_iff.2 h)]

theorem parse_of_malformed (hblank : ¬Text.Blank raw) (h : ¬List.Sublist ['(', ')'] raw) :
    parse raw = .error .malformed := by
  rw [parse, if_neg (mt Text.trim_eq_nil_iff.1 hblank),
    parenthesised?_eq_none_iff.2 (mt sublist_trim_iff.1 h)]

theorem exists_parse_eq_ok (hblank : ¬Text.Blank raw) (h : List.Sublist ['(', ')'] raw) :
    ∃ cmd, parse raw = .ok cmd := by
  rw [parse, if_neg (mt Text.trim_eq_nil_iff.1 hblank)]
  cases hparens : parenthesised? raw.trim with
  | none => exact absurd (sublist_trim_iff.2 h) (parenthesised?_eq_none_iff.1 hparens)
  | some parts => exact ⟨_, rfl⟩

end Command

/-! ### Values -/

namespace Command

/-- The value at a place, counted from zero: the kind that its token names, and its text. -/
def value? (cmd : Command) (i : Nat) : Option RawValue := do
  let token ← cmd.arguments[2 + 2 * i]?
  let raw ← cmd.arguments[3 + 2 * i]?
  return ⟨← Kind.ofToken? token, raw⟩

/-- The values of a command whose tokens name kinds. -/
def values (cmd : Command) : List RawValue := [0, 1].filterMap cmd.value?

/-- What can be read of the values. -/
def args (cmd : Command) : List Argument :=
  cmd.values.filterMap fun v => Argument.read? v.kind v.raw

variable {cmd : Command} {v : RawValue}

theorem exists_value?_of_mem (h : v ∈ cmd.values) : ∃ i : Fin 2, cmd.value? i.val = some v := by
  obtain ⟨i, hi, hv⟩ := List.mem_filterMap.1 h
  have htwo : i < 2 := by
    have hor : i = 0 ∨ i = 1 := by simpa using hi
    omega
  exact ⟨⟨i, htwo⟩, hv⟩

/-- A command with a value has a method in the second place. -/
theorem exists_method_of_value? {i : Nat} (h : cmd.value? i = some v) :
    ∃ name, cmd.arguments[1]? = some name := by
  obtain ⟨token, htoken, -⟩ := Option.bind_eq_some_iff.1 h
  obtain ⟨hlt, -⟩ := List.getElem?_eq_some_iff.1 htoken
  exact ⟨_, List.getElem?_eq_getElem (by omega : 1 < cmd.arguments.length)⟩

/-- In front of a value there are only those of the places before. -/
theorem exists_values_eq_append {i : Fin 2} (h : cmd.value? i.val = some v) :
    ∃ before after, cmd.values = before ++ v :: after ∧
      ∀ w ∈ before, ∃ j < i, cmd.value? j.val = some w := by
  match i with
  | 0 =>
    have h0 : cmd.value? 0 = some v := h
    exact ⟨[], [1].filterMap cmd.value?, by simp [values, h0], by simp⟩
  | 1 =>
    have h1 : cmd.value? 1 = some v := h
    refine ⟨(cmd.value? 0).toList, [], ?_, fun w hw => ⟨0, by decide, Option.mem_toList.1 hw⟩⟩
    cases h0 : cmd.value? 0 <;> simp [values, h0, h1]

end Command

/-! ### Operations -/

namespace Operation

theorem ofName?_eq_some_iff {name : Text} {op : Operation} :
    ofName? name = some op ↔ op.name = name :=
  ⟨fun h => by simpa using List.find?_some h, fun h => h ▸ ofName?_name op⟩

theorem ofName?_eq_none_of_forall {name : Text} (h : ∀ op : Operation, op.name ≠ name) :
    ofName? name = none :=
  Option.eq_none_iff_forall_ne_some.2 fun op hop => h op (ofName?_eq_some_iff.1 hop)

end Operation

namespace Query

variable {op : Operation} {args : List Text} {cmd : Command} {raw token type method : Text}
  {values : List RawValue}

theorem ofOperation_of_length_ne (h : args.length ≠ op.arity) :
    ofOperation op args = .error (.arity op) := by
  unfold ofOperation
  -- each operation with as many arguments as it takes is out of the question
  split
  · exact absurd rfl h
  · exact absurd rfl h
  · exact absurd rfl h
  · exact absurd rfl h
  · rfl

/-- The first token that names no kind is told. -/
theorem ofOperation_of_token {i : Fin 2} (hlength : args.length = op.arity)
    (htoken : args[2 + 2 * i.val]? = some token) (hnone : Kind.ofToken? token = none)
    (hbefore : ∀ j < i, ∀ t, args[2 + 2 * j.val]? = some t → Kind.ofToken? t ≠ none) :
    ofOperation op args = .error (.unsupportedType token.trim) := by
  have hno : ∀ raw, RawValue.ofToken token raw = .error (.unsupportedType token.trim) := by
    intro raw
    simp [RawValue.ofToken, hnone]
  obtain ⟨hlt, -⟩ := List.getElem?_eq_some_iff.1 htoken
  cases op with
  | describe =>
    have hone : args.length = 1 := hlength
    omega
  | invoke =>
    have htwo : args.length = 2 := hlength
    omega
  | invokeUnary =>
    obtain ⟨type, method, t, raw, rfl⟩ := List.length_eq_four.1 hlength
    by_cases hi : i = 0
    · subst hi
      obtain rfl := Option.some.inj htoken
      simp [ofOperation, hno, bind, Except.bind]
    · obtain rfl := Fin.eq_one_of_ne_zero i hi
      cases htoken
  | invokeBinary =>
    obtain ⟨type, rest, rfl⟩ := List.exists_cons_of_length_eq_add_one hlength
    obtain ⟨method, rest, rfl⟩ := List.exists_cons_of_length_eq_add_one (Nat.succ.inj hlength)
    obtain ⟨t, raw, t', raw', rfl⟩ := List.length_eq_four.1 (Nat.succ.inj (Nat.succ.inj hlength))
    by_cases hi : i = 0
    · subst hi
      obtain rfl := Option.some.inj htoken
      simp [ofOperation, hno, bind, Except.bind]
    · -- the first token has been passed
      obtain rfl := Fin.eq_one_of_ne_zero i hi
      obtain rfl := Option.some.inj htoken
      obtain ⟨kind, hk⟩ := Option.ne_none_iff_exists'.1 (hbefore 0 (by decide) t rfl)
      simp [ofOperation, hno, RawValue.ofToken_of_some hk, bind, Except.bind]

theorem Written.describe_eq (h : Written op args (.describe type)) :
    op = .describe ∧ args[1]? = none := by
  cases h
  exact ⟨rfl, rfl⟩

theorem Written.name_ne (h : Written op args (.call type method values)) :
    op.name ≠ Operation.describe.name := by
  cases h <;> decide

/-- The values of a call are those of the command. -/
theorem Written.values_eq (h : Written op cmd.arguments (.call type method values)) :
    cmd.values = values := by
  obtain ⟨operation, arguments⟩ := cmd
  have hw : Written op arguments (.call type method values) := h
  cases hw with
  | invoke => rfl
  | unary hk => simp [Command.values, Command.value?, hk]
  | binary hk hk' => simp [Command.values, Command.value?, hk, hk']

end Query

namespace RawValue

variable {values before after : List RawValue} {v : RawValue}

theorem mapM_read_of_forall (h : ∀ v ∈ values, Argument.read? v.kind v.raw ≠ none) :
    values.mapM read = .ok (values.filterMap fun v => Argument.read? v.kind v.raw) := by
  induction values with
  | nil => rfl
  | cons v values ih =>
    obtain ⟨a, ha⟩ := Option.ne_none_iff_exists'.1 (h v List.mem_cons_self)
    rw [List.mapM_cons, ih fun w hw => h w (List.mem_cons_of_mem _ hw)]
    simp [read, ha, bind, Except.bind, pure, Except.pure]

/-- The first value that cannot be read is told. -/
theorem mapM_read_of_append (hbefore : ∀ w ∈ before, Argument.read? w.kind w.raw ≠ none)
    (hv : Argument.read? v.kind v.raw = none) :
    (before ++ v :: after).mapM read = .error (.badValue v.kind v.raw) := by
  induction before with
  | nil =>
    rw [List.nil_append, List.mapM_cons]
    simp [read, hv, bind, Except.bind]
  | cons w before ih =>
    obtain ⟨a, ha⟩ := Option.ne_none_iff_exists'.1 (hbefore w List.mem_cons_self)
    rw [List.cons_append, List.mapM_cons, ih fun x hx => hbefore x (List.mem_cons_of_mem _ hx)]
    simp [read, ha, bind, Except.bind]

end RawValue

/-! ### Methods -/

/-- Whether a method has a name and takes values of some kinds. -/
def Method.Matches (m : Method) (name : Text) (kinds : List Kind) : Prop :=
  m.name = name ∧ m.params = kinds.map Kind.param

theorem Method.matches_iff {m : Method} {name : Text} {kinds : List Kind} :
    (m.name == name && m.accepts kinds) = true ↔ m.Matches name kinds := by
  simp [Matches, accepts]

namespace TypeDecl

variable {d : TypeDecl} {m : Method} {name : Text} {kinds : List Kind}

theorem findMethod?_eq_none_iff :
    d.findMethod? name kinds = none ↔ ∀ m ∈ d.methods, ¬m.Matches name kinds := by
  simp only [findMethod?, List.find?_eq_none, Method.matches_iff]

theorem findMethod?_eq_some_iff : d.findMethod? name kinds = some m ↔
    m.Matches name kinds ∧ ∃ before after, d.methods = before ++ m :: after ∧
      ∀ x ∈ before, ¬x.Matches name kinds := by
  simp only [findMethod?, List.find?_eq_some_iff_append, Bool.not_eq_true', Bool.eq_false_iff,
    ne_eq, Method.matches_iff]

end TypeDecl

/-! ### Calls -/

namespace Catalog

variable {c : Catalog} {raw type method : Text} {values : List RawValue} {args : List Argument}

/-- What a call comes to on arguments that have been read. -/
def call (c : Catalog) (type method : Text) (args : List Argument) : Except EngineError Value := do
  let d ← c.resolve type
  let m ← d.staticMethod method (args.map Argument.kind)
  m.invoke args

/-- A command whose values can be read calls its method on them. -/
theorem run_of_query (hquery : Query.ofText raw = .ok (.call type method values))
    (hread : values.mapM RawValue.read = .ok args) :
    c.run raw = (c.call type method args).map .value := by
  have hkinds := RawValue.map_kind_of_mapM_read hread
  unfold run runWith prepare call
  simp only [hquery, bind, Except.bind, prepareQuery, hread, hkinds]
  -- neither the type nor the method depends on the way to them
  cases c.resolve type with
  | error e => rfl
  | ok d =>
    cases hm : d.staticMethod method (values.map RawValue.kind) with
    | error e => simp only [hm]; rfl
    | ok m => simp only [hm]; rfl

end Catalog

end ReflectCalc
