import ReflectCalc.Command.Basic
import ReflectCalc.Proofs.Text.Pieces

/-!
# Reading a command back from any of its renderings

A command can be written in many ways: white space may stand around the whole of it, around the
name of the operation and around each argument, and anything without a closing parenthesis may
follow. `Command.parse_rendering` says that all of these read back as the same command.

* `Padded` is a trimmed text with the white space that is written around it;
* `Arguments.Closed` says of an argument that a reader who is through with it stands in no quoted
  span, and `Arguments.CommasQuoted` that each of its commas is inside one;
* `Command.rendering` puts a command together from padded parts.

The scan of an argument list carries two things, the span that is open and whether the last
character was a backslash. Both are as at the beginning whenever a separating comma has been read:
the argument before it is closed, and the comma itself takes the place of a backslash. So
`Scan.start` is the invariant at each boundary (`Scan.run_padded_comma`), and an argument list is
cut argument by argument (`cut_join_padded`).
-/

namespace ReflectCalc

/-- A trimmed text with white space around it. -/
structure Padded where
  before : Text
  body : Text
  after : Text
  blank_before : Text.Blank before := by decide
  trimmed : Text.Trimmed body := by decide
  blank_after : Text.Blank after := by decide

namespace Padded

/-- A padded text as it is written. -/
def text (p : Padded) : Text := p.before ++ p.body ++ p.after

/-- Trimming finds the body again. -/
@[simp] theorem trim_text (p : Padded) : p.text.trim = p.body :=
  Text.trim_between p.blank_before p.trimmed p.blank_after

end Padded

namespace Arguments

variable {c : Char} {s : Scan} {t u w : Text}

/-! ### The scan -/

namespace Scan

theorem run_append (s : Scan) (t u : Text) : s.run (t ++ u) = (s.run t).run u := by
  unfold run
  rw [List.foldl_append]

theorem run_cons (s : Scan) (c : Char) (t : Text) : s.run (c :: t) = (s.step c).run t := rfl

/-- White space is neither a quote mark nor a backslash. -/
theorem step_blank (hc : Text.isBlank c = true) (s : Scan) : s.step c = ⟨s.quote, false⟩ := by
  have hquote : isQuoteMark c = false := by
    refine Bool.eq_false_iff.2 fun h => ?_
    have : c = '"' ∨ c = '\'' := by simpa [isQuoteMark] using h
    rcases this with rfl | rfl <;> exact absurd hc (by decide)
  have hslash : c ≠ '\\' := by
    rintro rfl
    exact absurd hc (by decide)
  simp [step, hquote, hslash]

/-- White space leaves the open span as it is. -/
theorem run_blank_quote (hw : Text.Blank w) (s : Scan) : (s.run w).quote = s.quote := by
  induction w generalizing s with
  | nil => rfl
  | cons a w ih =>
    obtain ⟨ha, hw'⟩ := List.forall_mem_cons.1 hw
    rw [run_cons, ih hw', step_blank ha]

/-- White space at the front of a list is read without a trace. -/
theorem run_start_blank (hw : Text.Blank w) : start.run w = start := by
  induction w with
  | nil => rfl
  | cons a w ih =>
    obtain ⟨ha, hw'⟩ := List.forall_mem_cons.1 hw
    rw [run_cons, step_blank ha]
    exact ih hw'

/-- A comma outside all spans takes the reader back to the beginning. -/
theorem step_comma (hs : s.quote = none) : s.step ',' = start := by
  simp [step, isQuoteMark, start, hs]

end Scan

/-! ### Closed arguments and quoted commas -/

/-- A reader who is through with the text stands in no quoted span. -/
def Closed (t : Text) : Prop := (Scan.start.run t).quote = none

/-- Each comma of a text is read inside a quoted span, for a reader who begins at `s`. -/
def CommasQuotedFrom (s : Scan) (t : Text) : Prop :=
  ∀ l r, t = l ++ ',' :: r → (s.run l).quote ≠ none

/-- Each comma of a text is inside a quoted span. -/
def CommasQuoted (t : Text) : Prop := CommasQuotedFrom Scan.start t

theorem CommasQuotedFrom.of_not_mem (h : ',' ∉ t) : CommasQuotedFrom s t := by
  rintro l r rfl
  exact absurd (by simp) h

theorem CommasQuotedFrom.append (ht : CommasQuotedFrom s t) (hu : CommasQuotedFrom (s.run t) u) :
    CommasQuotedFrom s (t ++ u) := by
  intro l r h
  rcases List.append_eq_append_iff.1 h with ⟨m, hl, hm⟩ | ⟨m, ht', hm⟩
  · -- the comma stands in `u`
    subst hl
    rw [Scan.run_append]
    exact hu m r hm
  · cases m with
    | nil =>
      -- the comma is the first character of `u`
      rw [List.append_nil] at ht'
      subst ht'
      exact hu [] r (by simpa using hm.symm)
    | cons a m =>
      -- the comma stands in `t`
      rw [List.cons_append, List.cons.injEq] at hm
      obtain ⟨rfl, -⟩ := hm
      exact ht l m ht'

/-- Each comma of a text is quoted if the first character is none that separates and each comma of
the rest is quoted. -/
theorem commasQuotedFrom_cons :
    CommasQuotedFrom s (c :: t) ↔ s.separates c = false ∧ CommasQuotedFrom (s.step c) t := by
  constructor
  · intro h
    refine ⟨Bool.eq_false_iff.2 fun hsep => ?_, ?_⟩
    · have hcomma : c = ',' ∧ s.quote = none := by simpa [Scan.separates] using hsep
      obtain ⟨rfl, hs⟩ := hcomma
      exact h [] t rfl hs
    · rintro l r rfl
      exact h (c :: l) r rfl
  · rintro ⟨hsep, h⟩ l r heq
    cases l with
    | nil =>
      obtain ⟨rfl, rfl⟩ := List.cons.inj heq
      intro hs
      have : s.quote = none := hs
      simp [Scan.separates, this] at hsep
    | cons a l =>
      obtain ⟨rfl, rfl⟩ := List.cons.inj heq
      exact h l r rfl

instance decidableCommasQuotedFrom : (s : Scan) → (t : Text) → Decidable (CommasQuotedFrom s t)
  | _, [] => isTrue (.of_not_mem List.not_mem_nil)
  | s, c :: t =>
    have := decidableCommasQuotedFrom (s.step c) t
    decidable_of_iff _ commasQuotedFrom_cons.symm

instance (t : Text) : Decidable (CommasQuoted t) := decidableCommasQuotedFrom Scan.start t

instance (t : Text) : Decidable (Closed t) := inferInstanceAs (Decidable (_ = _))

/-- White space around an argument quotes its commas as they are quoted in the argument itself. -/
theorem CommasQuoted.padded {p : Padded} (h : CommasQuoted p.body) : CommasQuoted p.text := by
  have hcomma : Text.isBlank ',' = false := by decide
  have hbefore : CommasQuoted p.before := .of_not_mem (p.blank_before.not_mem hcomma)
  refine CommasQuotedFrom.append (CommasQuotedFrom.append hbefore ?_) ?_
  · rw [Scan.run_start_blank p.blank_before]
    exact h
  · exact .of_not_mem (p.blank_after.not_mem hcomma)

/-- White space around an argument leaves it closed. -/
theorem Closed.padded {p : Padded} (h : Closed p.body) : Closed p.text := by
  unfold Closed Padded.text
  rw [Scan.run_append, Scan.run_append, Scan.run_start_blank p.blank_before,
    Scan.run_blank_quote p.blank_after]
  exact h

/-- **The boundary invariant.** After a closed argument and the comma behind it the reader stands
as at the beginning of the list. -/
theorem Scan.run_padded_comma {p : Padded} (h : Closed p.body) :
    (Scan.start.run p.text).step ',' = Scan.start :=
  Scan.step_comma h.padded

/-! ### Cutting -/

/-- A text whose commas are all quoted is one piece. -/
theorem cut_of_commasQuoted (h : CommasQuotedFrom s t) : cut s t = [t] := by
  induction t generalizing s with
  | nil => rfl
  | cons a t ih =>
    obtain ⟨hsep, htail⟩ := commasQuotedFrom_cons.1 h
    rw [cut, hsep, ih htail]
    rfl

/-- A piece whose commas are all quoted, and the comma that ends it. -/
theorem cut_append_comma (h : CommasQuotedFrom s t) (hclosed : (s.run t).quote = none) :
    cut s (t ++ ',' :: u) = t :: cut ((s.run t).step ',') u := by
  induction t generalizing s with
  | nil =>
    have hs : s.quote = none := hclosed
    have hsep : s.separates ',' = true := by simp [Scan.separates, hs]
    rw [List.nil_append, cut, hsep]
    rfl
  | cons a t ih =>
    obtain ⟨hsep, htail⟩ := commasQuotedFrom_cons.1 h
    rw [List.cons_append, cut, hsep, ih htail hclosed]
    rfl

/-- The pieces of padded arguments with commas between them. -/
theorem cut_join_padded {args : List Padded} (hne : args ≠ [])
    (hcommas : ∀ a ∈ args, CommasQuoted a.body) (hclosed : ∀ a ∈ args.dropLast, Closed a.body) :
    cut Scan.start (Text.join "," (args.map Padded.text)) = args.map Padded.text := by
  induction args with
  | nil => exact absurd rfl hne
  | cons a args ih =>
    have ha : CommasQuoted a.text := (hcommas a List.mem_cons_self).padded
    cases args with
    | nil => exact cut_of_commasQuoted ha
    | cons b args =>
      have hac : Closed a.body := hclosed a (by simp)
      have hrest := ih (by simp) (fun x hx => hcommas x (List.mem_cons_of_mem a hx))
        (fun x hx => hclosed x (by simp [hx]))
      have hjoin : Text.join "," ((a :: b :: args).map Padded.text)
          = a.text ++ ',' :: Text.join "," ((b :: args).map Padded.text) := by
        simp [Text.join]
      rw [hjoin, cut_append_comma ha hac.padded, Scan.run_padded_comma hac, hrest]
      rfl

/-- Splitting finds the bodies of padded arguments. The last one may leave a span open. -/
theorem split_join_padded {args : List Padded}
    (hcommas : ∀ a ∈ args, CommasQuoted a.body) (hclosed : ∀ a ∈ args.dropLast, Closed a.body)
    (hlast : ∀ a ∈ args.getLast?, a.body ≠ []) :
    split (Text.join "," (args.map Padded.text)) = args.map Padded.body := by
  by_cases hne : args = []
  · subst hne
    rfl
  · unfold split
    rw [cut_join_padded hne hcommas hclosed, List.map_map]
    have htrim : args.map (Text.trim ∘ Padded.text) = args.map Padded.body :=
      List.map_congr_left fun a _ => a.trim_text
    rw [htrim]
    -- the last body is not empty, so nothing is dropped
    unfold dropEmptyLast
    rw [if_neg]
    rw [List.getLast?_map, List.getLast?_eq_some_getLast hne]
    intro h
    exact hlast _ (List.getLast?_eq_some_getLast hne) (by simpa using h)

end Arguments

/-! ### Commands -/

namespace Command

/-- A command as it can be written: an operation and its arguments, each with white space around
it, something behind the closing parenthesis, and white space around the whole. -/
def rendering (front : Text) (op : Padded) (args : List Padded) (trailing back : Text) : Text :=
  front ++ op.text ++ '(' :: Text.join "," (args.map Padded.text) ++ ')' :: trailing ++ back

/-- Trimming a rendering leaves what stands between the outer parentheses as it is. -/
theorem trim_rendering (front : Text) (op : Padded) (args : List Padded) (trailing back : Text) :
    (rendering front op args trailing back).trim
      = Text.trimStart (front ++ op.text) ++
          '(' :: (Text.join "," (args.map Padded.text) ++ ')' :: Text.trimEnd (trailing ++ back)) := by
  have hopen : Text.isBlank '(' = false := by decide
  have hclose : Text.isBlank ')' = false := by decide
  have hshape : rendering front op args trailing back
      = (front ++ op.text) ++
          '(' :: (Text.join "," (args.map Padded.text) ++ ')' :: (trailing ++ back)) := by
    simp [rendering]
  unfold Text.trim
  rw [hshape, Text.trimStart_append_cons hopen, ← List.cons_append, ← List.append_assoc,
    Text.trimEnd_append_cons hclose]
  simp

/-- **Every rendering of a command reads back.** The operation holds no opening parenthesis, each
comma of an argument is quoted, all arguments but the last are closed, the last one is not empty,
and no closing parenthesis follows the list. -/
theorem parse_rendering (front : Text) (op : Padded) (args : List Padded) (trailing back : Text)
    (hfront : Text.Blank front) (hback : Text.Blank back) (hop : '(' ∉ op.body)
    (hcommas : ∀ a ∈ args, Arguments.CommasQuoted a.body)
    (hclosed : ∀ a ∈ args.dropLast, Arguments.Closed a.body)
    (hlast : ∀ a ∈ args.getLast?, a.body ≠ []) (htrailing : ')' ∉ trailing) :
    parse (rendering front op args trailing back) = .ok ⟨op.body, args.map Padded.body⟩ := by
  have hopen : Text.isBlank '(' = false := by decide
  have hclose : Text.isBlank ')' = false := by decide
  -- the first opening parenthesis is the one behind the operation
  have hbefore : '(' ∉ Text.trimStart (front ++ op.text) := by
    intro h
    have hmem := Text.subset_trimStart h
    simp only [Padded.text, List.mem_append] at hmem
    rcases hmem with h | (h | h) | h
    · exact hfront.not_mem hopen h
    · exact op.blank_before.not_mem hopen h
    · exact hop h
    · exact op.blank_after.not_mem hopen h
  -- the last closing parenthesis is the one in front of `trailing`
  have hbehind : ')' ∉ Text.trimEnd (trailing ++ back) := by
    intro h
    rcases List.mem_append.1 (Text.subset_trimEnd h) with h | h
    · exact htrailing h
    · exact hback.not_mem hclose h
  have hname : Text.trim (Text.trimStart (front ++ op.text)) = op.body := by
    rw [Text.trim_trimStart, Text.trim_append_left hfront, Padded.trim_text]
  have hargs := Arguments.split_join_padded hcommas hclosed hlast
  unfold parse
  rw [trim_rendering, if_neg (by simp)]
  simp only [parenthesised?, Text.splitOnce_append hbefore, Text.splitLast_append hbehind,
    Option.bind_eq_bind, Option.bind_some, Option.pure_def, hname, hargs]

/-- A rendering with an empty argument, a span with the other mark and a comma in it, a last argument
that leaves its span open behind an escaped mark, and parentheses everywhere. -/
theorem parse_rendering_open_span :
    parse "\u3000 a)b\t( ,  (\"x,'\") ,\u00A0'(, \\') (c\n"
      = .ok ⟨"a)b", ["", "(\"x,'\")", "'(, \\'"]⟩ :=
  parse_rendering "\u3000" (.mk " " "a)b" "\t")
    [.mk " " "" "", .mk "  " "(\"x,'\")" " ", .mk "\u00A0" "'(, \\'" ""] " (c" "\n"
    (by decide) (by decide) (by decide) (by decide) (by decide) (by decide) (by decide)

end Command

end ReflectCalc
