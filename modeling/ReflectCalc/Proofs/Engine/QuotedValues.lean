import ReflectCalc.Proofs.Command.Rejoin
import ReflectCalc.Proofs.Engine.Activations

/-!
# Quoted values

A text reaches a native body by way of a command, between two quote marks. On that way it is
searched for parentheses, scanned for commas and quote marks, trimmed and unquoted.
`Catalog.quoted_values_arrive` says that nothing of this changes it.

* `Argument.quote` writes a text between quote marks, and `Argument.Quotable` is what it takes for
  that: the mark does not occur in it, and no backslash stands in front of the closing one;
* `Command.Renders` are all the texts that a command can be written as;
* `Catalog.Passes` says what a native body is handed.

A span is closed by the mark that opened it and by no other character (`Scan.run_span`). So a quoted
value is closed and has its commas quoted, whatever else stands in it, and the value behind it is
scanned from the beginning.
-/

namespace ReflectCalc

variable {q : Char} {s t w raw : Text}

namespace Arguments

theorem not_special_of_isQuoteMark (h : isQuoteMark q = true) :
    q ≠ ',' ∧ q ≠ '\\' ∧ Text.isBlank q = false := by
  have hq : q = '"' ∨ q = '\'' := by simpa [isQuoteMark] using h
  rcases hq with rfl | rfl <;> decide

namespace Scan

/-- A mark outside all spans opens one, unless a backslash stands in front of it. -/
theorem step_open (h : isQuoteMark q = true) : start.step q = ⟨some q, false⟩ := by
  obtain ⟨-, hslash, -⟩ := not_special_of_isQuoteMark h
  simp [step, start, h, hslash]

/-- Without its mark a span is not closed. -/
theorem run_span {scan : Scan} (hscan : scan.quote = some q) (hs : q ∉ s) :
    (scan.run s).quote = some q := by
  induction s generalizing scan with
  | nil => exact hscan
  | cons c s ih =>
    have hc : c ≠ q := (List.ne_of_not_mem_cons hs).symm
    rw [run_cons]
    refine ih ?_ (List.not_mem_of_not_mem_cons hs)
    -- another mark inside the span has no meaning
    simp [step, hscan, hc]

/-- Whether the last character read is a backslash. -/
theorem escaped_run {scan : Scan} (hscan : scan.escaped = false) (hs : s.getLast? ≠ some '\\') :
    (scan.run s).escaped = false := by
  rcases List.eq_nil_or_concat s with rfl | ⟨front, c, rfl⟩
  · exact hscan
  · rw [List.concat_eq_append] at hs ⊢
    have hc : c ≠ '\\' := fun h => hs (by simp [h])
    rw [run_append]
    exact decide_eq_false hc

/-- Without a quote mark no span is opened. -/
theorem run_quote_of_no_mark {scan : Scan} (hs : ∀ c ∈ s, isQuoteMark c = false) :
    (scan.run s).quote = scan.quote := by
  induction s generalizing scan with
  | nil => rfl
  | cons c s ih =>
    obtain ⟨hc, hs'⟩ := List.forall_mem_cons.1 hs
    rw [run_cons, ih hs']
    simp [step, hc]

end Scan

/-- An argument that needs no quotation. -/
structure Plain (t : Text) : Prop where
  trimmed : t.Trimmed
  no_comma : ',' ∉ t
  no_mark : ∀ c ∈ t, isQuoteMark c = false

instance (t : Text) : Decidable (Plain t) :=
  decidable_of_iff (t.Trimmed ∧ ',' ∉ t ∧ (t.all fun c => !isQuoteMark c) = true)
    ⟨fun ⟨htrimmed, hcomma, hmark⟩ => ⟨htrimmed, hcomma, by simpa using hmark⟩,
      fun h => ⟨h.trimmed, h.no_comma, by simpa using h.no_mark⟩⟩

theorem Plain.commasQuoted (h : Plain t) : CommasQuoted t := .of_not_mem h.no_comma

theorem Plain.closed (h : Plain t) : Closed t := Scan.run_quote_of_no_mark h.no_mark

theorem Plain.separated {args : List Text} (h : Plain t) (hargs : Separated args) :
    Separated (t :: args) :=
  hargs.cons h.commasQuoted fun _ => h.closed

theorem Separated.nil : Separated [] where
  commasQuoted := fun _ h => nomatch h
  closed := fun _ h => nomatch h

end Arguments

namespace Argument

open Arguments

/-- A text between two quote marks. -/
def quote (q : Char) (s : Text) : Text := q :: (s ++ [q])

/-- A text that can stand between these marks: the mark is not in it, and its last character does
not take the meaning from the mark that follows. -/
structure Quotable (q : Char) (s : Text) : Prop where
  mark : isQuoteMark q = true
  not_mem : q ∉ s
  no_backslash : s.getLast? ≠ some '\\'

/-- The closing mark closes the span. -/
theorem Quotable.closed (h : Quotable q s) : Closed (quote q s) := by
  have hspan : ((Scan.mk (some q) false).run s).quote = some q := Scan.run_span rfl h.not_mem
  have hescaped : ((Scan.mk (some q) false).run s).escaped = false :=
    Scan.escaped_run rfl h.no_backslash
  unfold Closed quote
  rw [Scan.run_cons, Scan.step_open h.mark, Scan.run_append]
  change (Scan.step _ q).quote = none
  simp [Scan.step, h.mark, hescaped, hspan]

/-- Whatever commas there are, they stand between the marks. -/
theorem Quotable.commasQuoted (h : Quotable q s) : CommasQuoted (quote q s) := by
  obtain ⟨hcomma, -, -⟩ := not_special_of_isQuoteMark h.mark
  refine commasQuotedFrom_cons.2 ⟨by simp [Scan.separates, hcomma], ?_⟩
  rw [Scan.step_open h.mark]
  refine CommasQuotedFrom.append ?_ (.of_not_mem (by simpa using hcomma.symm))
  rintro l r rfl
  have hl : q ∉ l := fun hmem => h.not_mem (List.mem_append_left _ hmem)
  rw [Scan.run_span rfl hl]
  exact Option.some_ne_none q

theorem Quotable.trimmed (h : Quotable q s) : (quote q s).Trimmed := by
  obtain ⟨-, -, hblank⟩ := not_special_of_isQuoteMark h.mark
  constructor
  · rintro c ⟨⟩
    exact hblank
  · intro c hc
    have hlast : (quote q s).getLast? = some q := by
      unfold quote
      rw [← List.cons_append, List.getLast?_concat]
    rw [hlast] at hc
    exact Option.some.inj hc ▸ hblank

/-- Just the marks are taken off. White space inside them is not trimmed. -/
theorem Quotable.unquote (h : Quotable q s) : unquote (quote q s) = s := by
  have hquoted : isQuoted (quote q s) = true := by
    have hq : q = '"' ∨ q = '\'' := by simpa [isQuoteMark] using h.mark
    simp [quote, isQuoted, hq]
  unfold Argument.unquote
  rw [Text.trim_of_trimmed h.trimmed, if_pos hquoted]
  simp [quote]

/-- A quoted value is read as the text between the marks. -/
theorem Quotable.read (h : Quotable q s) :
    (RawValue.mk .text (quote q s)).read = .ok (.text s) := by
  unfold RawValue.read read?
  rw [h.unquote]

theorem ofToken?_string : Kind.ofToken? "string" = some .text := by decide

theorem Quotable.read_ofToken (h : Quotable q s) :
    (RawValue.ofToken "string" (quote q s) >>= RawValue.read) = .ok (.text s) := by
  rw [RawValue.ofToken_of_some ofToken?_string]
  exact h.read

/-- A type token and a quoted value stay apart from the arguments behind them. -/
theorem Quotable.separated {args : List Text} (h : Quotable q s) (hargs : Separated args) :
    Separated ("string" :: quote q s :: args) := by
  have hstring : Plain "string" := by decide
  exact hstring.separated (hargs.cons h.commasQuoted fun _ => h.closed)

end Argument

/-! ### Renderings -/

namespace Command

open Arguments

variable {c : Command}

/-- Whether a text writes a command, with any white space around its parts and with anything behind
it that holds no closing parenthesis. -/
def Renders (raw : Text) (c : Command) : Prop :=
  ∃ (front : Text) (op : Padded) (args : List Padded) (trailing back : Text),
    Text.Blank front ∧ Text.Blank back ∧ ')' ∉ trailing ∧ op.body = c.operation ∧
    args.map Padded.body = c.arguments ∧ raw = rendering front op args trailing back

/-- A command as it is commonly written, with a space behind each comma. -/
def spaced (c : Command) : Text := c.operation ++ "(" ++ Text.join ", " c.arguments ++ ")"

theorem exists_join_eq {a : Text} {args : List Text} (hw : Text.Blank w)
    (h : ∀ x ∈ a :: args, x.Trimmed) : ∃ ps : List Padded, ps.map Padded.body = a :: args ∧
      Text.join "," (ps.map Padded.text) = w ++ Text.join ", " (a :: args) := by
  induction args generalizing a w with
  | nil =>
    have ha : a.Trimmed := h a List.mem_cons_self
    exact ⟨[⟨w, a, [], hw, ha, by decide⟩], rfl, by simp [Padded.text, Text.join]⟩
  | cons b args ih =>
    obtain ⟨ha, hrest⟩ := List.forall_mem_cons.1 h
    -- the space belongs to the argument behind it
    have hspace : Text.Blank " " := by decide
    obtain ⟨ps, hbody, htext⟩ := ih hspace hrest
    refine ⟨⟨w, a, [], hw, ha, by decide⟩ :: ps, by rw [List.map_cons, hbody], ?_⟩
    cases ps with
    | nil => cases hbody
    | cons p ps =>
      have hjoin (separator x y : Text) (rest : List Text) :
          Text.join separator (x :: y :: rest) =
            x ++ separator ++ Text.join separator (y :: rest) :=
        rfl
      rw [List.map_cons] at htext
      rw [List.map_cons, List.map_cons, hjoin, htext, hjoin]
      simp [Padded.text]

/-- The common way to write a command is one of its renderings. -/
theorem renders_spaced (c : Command) (hop : c.operation.Trimmed)
    (hargs : ∀ a ∈ c.arguments, a.Trimmed) (hne : c.arguments ≠ []) : Renders c.spaced c := by
  obtain ⟨operation, arguments⟩ := c
  obtain ⟨a, args, rfl⟩ := List.exists_cons_of_ne_nil hne
  have hnil : Text.Blank [] := by decide
  obtain ⟨ps, hbody, htext⟩ := exists_join_eq hnil hargs
  refine ⟨[], .bare operation hop, ps, [], [], hnil, hnil, List.not_mem_nil, rfl, hbody, ?_⟩
  rw [List.nil_append] at htext
  unfold rendering spaced
  rw [htext]
  simp [Padded.bare, Padded.text]

/-- A rendering is read as the command that it writes. -/
theorem parse_of_renders (h : Renders raw c) (hop : '(' ∉ c.operation)
    (hsep : Separated c.arguments) (hlast : c.arguments.getLast? ≠ some []) :
    parse raw = .ok c := by
  obtain ⟨front, op, args, trailing, back, hfront, hback, htrailing, hop', hargs', rfl⟩ := h
  obtain ⟨operation, arguments⟩ := c
  obtain rfl : op.body = operation := hop'
  obtain rfl : args.map Padded.body = arguments := hargs'
  have hopen : Text.isBlank '(' = false := by decide
  have hclose : Text.isBlank ')' = false := by decide
  have hbefore : '(' ∉ front ++ op.text := by
    simp only [Padded.text, List.mem_append, not_or]
    exact ⟨hfront.not_mem hopen, ⟨op.blank_before.not_mem hopen, hop⟩,
      op.blank_after.not_mem hopen⟩
  have hbehind : ')' ∉ trailing ++ back := by
    simp only [List.mem_append, not_or]
    exact ⟨htrailing, hback.not_mem hclose⟩
  have hshape : rendering front op args trailing back =
      (front ++ op.text) ++ '(' :: (Text.join "," (args.map Padded.text) ++
        ')' :: (trailing ++ back)) := by
    simp [rendering]
  have hclosed : ∀ a ∈ args.dropLast, Closed a.body := by
    intro a ha
    refine hsep.closed a.body ?_
    rw [← List.map_dropLast]
    exact List.mem_map_of_mem ha
  have hsplit : split (Text.join "," (args.map Padded.text)) = args.map Padded.body := by
    refine split_join_padded (fun a ha => hsep.commasQuoted a.body (List.mem_map_of_mem ha)) hclosed
      fun a ha hnil => hlast ?_
    rw [List.getLast?_map, Option.mem_def.1 ha, Option.map_some, hnil]
  rw [hshape, parse_enclosed hbefore hbehind, Text.trim_append_left hfront, Padded.trim_text,
    hsplit]

end Command

/-! ### Calls -/

namespace Operation

/-- Each operation is found by its name. -/
theorem ofName?_name (op : Operation) : ofName? op.name = some op := by
  cases op <;> rfl

theorem trimmed_name (op : Operation) : Text.Trimmed op.name := by
  cases op <;> decide

theorem not_mem_name (op : Operation) : '(' ∉ op.name := by
  cases op <;> decide

end Operation

namespace Catalog

open Arguments Argument

variable {c : Catalog} {type method : Text} {values : List RawValue} {args : List Argument}

/-- What a command passes on: whatever body it has run is handed these arguments, and the body of
the static method that it names is run on them and decides the result. -/
def Passes (c : Catalog) (raw type method : Text) (args : List Argument) : Prop :=
  (∀ a ∈ c.activations raw, a.args = args) ∧
  ∀ d m body, c.find? type = some d → d.staticMethod method (args.map Argument.kind) = .ok m →
    m.body = .static body →
    c.runLogged raw = ((body args).result.map .value, [⟨body, args⟩])

/-- A call passes on its values as they are read. -/
theorem passes_of_query (hq : Query.ofText raw = .ok (.call type method values))
    (hargs : values.mapM RawValue.read = .ok args) : c.Passes raw type method args := by
  constructor
  · intro a ha
    unfold activations at ha
    rcases runLogged_cases c raw with ⟨e, -, hr⟩ | ⟨d, -, hr⟩ | ⟨call, body, hp, -, hr⟩
    · simp [hr] at ha
    · simp [hr] at ha
    · rw [hr] at ha
      obtain rfl := List.mem_singleton.1 ha
      obtain ⟨type', method', values', hq', -, hargs', -⟩ := prepare_eq_call hp
      cases hq.symm.trans hq'
      exact Except.ok.inj (hargs'.symm.trans hargs)
  · intro d m body hd hm hbody
    have hkinds := RawValue.map_kind_of_mapM_read hargs
    rw [hkinds] at hm
    have hresolve : c.resolve type = .ok d := by rw [resolve, hd]
    have hp : c.prepare raw = .ok (.call ⟨d, m, args⟩) := by
      simp only [prepare, hq, bind, Except.bind, prepareQuery, hresolve, hargs, hm]
      rfl
    exact runLogged_of_call hp hbody

/-- A call whose arguments keep apart is read from each of its renderings and passes on its
values. -/
theorem passes_of_renders (op : Operation) {arguments : List Text}
    (htrimmed : ∀ a ∈ arguments, Text.Trimmed a) (hsep : Separated arguments)
    (hlast : arguments.getLast? ≠ some [])
    (hw : Query.Written op arguments (.call type method values))
    (hread : values.mapM RawValue.read = .ok args) :
    Command.Renders (Command.spaced ⟨op.name, arguments⟩) ⟨op.name, arguments⟩ ∧
    ∀ raw, Command.Renders raw ⟨op.name, arguments⟩ →
      Command.parse raw = .ok ⟨op.name, arguments⟩ ∧ c.Passes raw type method args := by
  constructor
  · refine Command.renders_spaced _ op.trimmed_name htrimmed fun hnil => ?_
    -- a call has at least a type and a method
    obtain ⟨htype, -, -⟩ := hw.call_eq
    rw [show arguments = [] from hnil] at htype
    cases htype
  · intro raw hraw
    have hparse := Command.parse_of_renders hraw op.not_mem_name hsep hlast
    have hquery := Query.ofText_eq_ok_iff.2 ⟨_, op, hparse, op.ofName?_name, hw⟩
    exact ⟨hparse, passes_of_query hquery hread⟩

/-- **A quoted text arrives as it is.** However the command is written, it has just these arguments,
each value is read as the text between its marks, and the body that is run is handed these texts. -/
theorem quoted_values_arrive (c : Catalog) {type method : Text} (htype : Plain type)
    (hmethod : Plain method) :
    (∀ q s, Quotable q s →
      let cmd : Command := ⟨"unaryInvoke", [type, method, "string", quote q s]⟩
      Command.Renders cmd.spaced cmd ∧
      (RawValue.ofToken "string" (quote q s) >>= RawValue.read) = .ok (.text s) ∧
      ∀ raw, Command.Renders raw cmd →
        Command.parse raw = .ok cmd ∧ c.Passes raw type method [.text s]) ∧
    ∀ q s q' s', Quotable q s → Quotable q' s' →
      let cmd : Command :=
        ⟨"binaryInvoke", [type, method, "string", quote q s, "string", quote q' s']⟩
      Command.Renders cmd.spaced cmd ∧
      (RawValue.ofToken "string" (quote q s) >>= RawValue.read) = .ok (.text s) ∧
      (RawValue.ofToken "string" (quote q' s') >>= RawValue.read) = .ok (.text s') ∧
      ∀ raw, Command.Renders raw cmd →
        Command.parse raw = .ok cmd ∧ c.Passes raw type method [.text s, .text s'] := by
  have hstring : Text.Trimmed "string" := by decide
  have hnil : ∀ a ∈ ([] : List Text), a.Trimmed := fun _ h => nomatch h
  constructor
  · intro q s h cmd
    have htrimmed : ∀ a ∈ cmd.arguments, Text.Trimmed a := by
      simp only [cmd, List.forall_mem_cons]
      exact ⟨htype.trimmed, hmethod.trimmed, hstring, h.trimmed, hnil⟩
    have hsep := htype.separated (hmethod.separated (h.separated .nil))
    have hread : [RawValue.mk .text (quote q s)].mapM RawValue.read = .ok [.text s] := by
      simp only [List.mapM_cons, List.mapM_nil, h.read]
      rfl
    obtain ⟨hspaced, hraw⟩ := passes_of_renders .invokeUnary htrimmed hsep
      (by simp [cmd, quote]) (.unary ofToken?_string) hread
    exact ⟨hspaced, h.read_ofToken, hraw⟩
  · intro q s q' s' h h' cmd
    have htrimmed : ∀ a ∈ cmd.arguments, Text.Trimmed a := by
      simp only [cmd, List.forall_mem_cons]
      exact ⟨htype.trimmed, hmethod.trimmed, hstring, h.trimmed, hstring, h'.trimmed, hnil⟩
    have hsep := htype.separated (hmethod.separated (h.separated (h'.separated .nil)))
    have hread : [RawValue.mk .text (quote q s), ⟨.text, quote q' s'⟩].mapM RawValue.read =
        .ok [.text s, .text s'] := by
      simp only [List.mapM_cons, List.mapM_nil, h.read, h'.read]
      rfl
    obtain ⟨hspaced, hraw⟩ := passes_of_renders .invokeBinary htrimmed hsep
      (by simp [cmd, quote]) (.binary ofToken?_string ofToken?_string) hread
    exact ⟨hspaced, h.read_ofToken, h'.read_ofToken, hraw⟩

/-- Two values that hold each other's mark, separators, white space at the ends, a line break and a
backslash. -/
theorem quoted_values_arrive_odd_texts :
    Command.parse "binaryInvoke(T, m, string, ' \\a,\"b) ', string, \")'(\n\\ c, \")" =
      .ok ⟨"binaryInvoke",
        ["T", "m", "string", "' \\a,\"b) '", "string", "\")'(\n\\ c, \""]⟩ ∧
    ((ofList [⟨"T", [],
        [⟨"m", .void, [.string, .string], .static fun _ => .crash none⟩]⟩]).activations
      "binaryInvoke(T, m, string, ' \\a,\"b) ', string, \")'(\n\\ c, \")").map Activation.args =
      [[.text " \\a,\"b) ", .text ")'(\n\\ c, "]] := by
  have hT : Plain "T" := by decide
  have hm : Plain "m" := by decide
  have hfirst : Quotable '\'' " \\a,\"b) " := ⟨rfl, by decide, by decide⟩
  have hsecond : Quotable '"' ")'(\n\\ c, " := ⟨rfl, by decide, by decide⟩
  obtain ⟨hspaced, -, -, h⟩ := (quoted_values_arrive (ofList [⟨"T", [], [⟨"m", .void,
    [.string, .string], .static fun _ => .crash none⟩]⟩]) hT hm).2 _ _ _ _ hfirst hsecond
  obtain ⟨hparse, -, hpasses⟩ := h _ hspaced
  refine ⟨hparse, ?_⟩
  exact congrArg (fun r => r.2.map Activation.args) (hpasses _ _ _ rfl rfl rfl)

end Catalog

end ReflectCalc
