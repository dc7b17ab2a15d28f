import Mathlib.Data.List.Basic
import Mathlib.Data.List.TakeWhile
import ReflectCalc.Proofs.Http.Fields
import ReflectCalc.Proofs.Http.Request

/-!
# Heads of requests as they are written

A `HeadText` is all that a writer can choose in the head of a request: the three words of the
request line, the lines behind it, and for each line how it ends. The reader gets back the method,
the two parts of the target and the headers, and nothing of the rest makes a difference to it.

* `HeaderLine` is a line behind the request line, which names a header or says nothing, and
  `HeaderLine.readLine?_text` says that the reader takes it for just this;
* `HeadText.text` is the whole head, and `HeadText.pieces` are its lines behind the first one;
* `Request.read_headText_append` is the main result.

The reader cuts the head into lines before it looks at any of them, and takes the ends off one by
one. So the proof goes from the lines, which are the pieces again (`HeadText.split_flatten_pieces`),
to their texts (`HeadText.map_chomp_pieces`), and from there to the fields
(`HeadText.filterMap_pieces`).
-/

namespace ReflectCalc

/-- The text keeps to its line. -/
def Text.OnLine (t : Text) : Prop := '\r' ∉ t ∧ '\n' ∉ t

instance (t : Text) : Decidable t.OnLine := inferInstanceAs (Decidable (_ ∧ _))

theorem Text.OnLine.append {s t : Text} (hs : s.OnLine) (ht : t.OnLine) : (s ++ t).OnLine := by
  refine ⟨fun h => ?_, fun h => ?_⟩
  · exact (List.mem_append.1 h).elim hs.1 ht.1
  · exact (List.mem_append.1 h).elim hs.2 ht.2

/-! ### One line -/

/-- A line behind the request line. -/
inductive HeaderLine where
  /-- A value under a name. -/
  | field (name value : Text)
  /-- A line that is no header. -/
  | junk (t : Text)
deriving DecidableEq, Repr

namespace HeaderLine

variable {l : HeaderLine}

/-- What stands on the line. -/
def text : HeaderLine → Text
  | field name value => name ++ ": " ++ value
  | junk t => t

/-- The header that the line names. -/
def field? : HeaderLine → Option (Text × Text)
  | field name value => some (name, value)
  | junk _ => none

/-- The line says what it is meant to say: neither a name nor a value has white space around it, a
name is not empty and ends at the first colon, and a line that is no header has no colon. -/
def WellFormed : HeaderLine → Prop
  | field name value =>
    (name ≠ [] ∧ name.Trimmed ∧ ':' ∉ name ∧ name.OnLine) ∧ value.Trimmed ∧ value.OnLine
  | junk t => t ≠ [] ∧ ':' ∉ t ∧ t.OnLine

instance (l : HeaderLine) : Decidable l.WellFormed := by
  cases l
  · exact inferInstanceAs (Decidable ((_ ∧ _ ∧ _ ∧ _) ∧ _ ∧ _))
  · exact inferInstanceAs (Decidable (_ ∧ _ ∧ _))

theorem text_ne_nil (h : l.WellFormed) : l.text ≠ [] := by
  cases l with
  | field name value => simp [text]
  | junk t => exact h.1

theorem onLine_text (h : l.WellFormed) : l.text.OnLine := by
  cases l with
  | field name value =>
    obtain ⟨⟨-, -, -, hname⟩, -, hvalue⟩ := h
    exact (hname.append (by decide)).append hvalue
  | junk t => exact h.2.2

/-- The reader takes the line for what it is meant to be. -/
theorem readLine?_text (h : l.WellFormed) : Fields.readLine? l.text = l.field? := by
  cases l with
  | field name value =>
    obtain ⟨⟨hne, htrimmed, hcolon, -⟩, hvalue, -⟩ := h
    rw [text, Fields.readLine?_colon hne htrimmed hcolon, Text.trim_of_trimmed hvalue]
    rfl
  | junk t => exact Fields.readLine?_of_not_mem h.2.1

end HeaderLine

/-! ### The head -/

/-- The head of a request as it is written. -/
structure HeadText where
  method : Text
  target : Text
  /-- What stands behind the target, spaces included. -/
  version : Text
  /-- How the request line ends. -/
  lineEnd : LineEnd
  /-- The lines behind it, each with its end. -/
  lines : List (HeaderLine × LineEnd)
  /-- How the empty line ends. -/
  blankEnd : LineEnd
  method_word : method ≠ [] ∧ ' ' ∉ method ∧ method.OnLine
  target_word : target ≠ [] ∧ ' ' ∉ target ∧ target.OnLine
  version_onLine : version.OnLine
  lines_wellFormed : ∀ l ∈ lines, l.1.WellFormed

namespace HeadText

variable {l : Text} {h : HeadText}

/-- What stands on the request line. -/
def requestLine (h : HeadText) : Text := h.method ++ ' ' :: (h.target ++ ' ' :: h.version)

/-- The lines behind the request line with their ends. -/
def pieces (h : HeadText) : List Text := h.lines.map fun l => l.1.text ++ l.2.text

/-- The whole head. -/
def text (h : HeadText) : Text :=
  h.requestLine ++ h.lineEnd.text ++ h.pieces.flatten ++ h.blankEnd.text

/-- The headers that the lines name, in their order. -/
def fields (h : HeadText) : List (Text × Text) := h.lines.filterMap fun l => l.1.field?

theorem onLine_requestLine (h : HeadText) : h.requestLine.OnLine := by
  have hspace : Text.OnLine [' '] := by decide
  have hline : h.requestLine = h.method ++ ([' '] ++ (h.target ++ ([' '] ++ h.version))) := rfl
  rw [hline]
  exact h.method_word.2.2.append
    (hspace.append (h.target_word.2.2.append (hspace.append h.version_onLine)))

/-- Every line behind the request line ends with its one line feed. -/
theorem exists_of_mem_pieces (hl : l ∈ h.pieces) : ∃ l', '\n' ∉ l' ∧ l = l' ++ ['\n'] := by
  obtain ⟨⟨line, lineEnd⟩, hmem, rfl⟩ := List.mem_map.1 hl
  have hline : line.text.OnLine := HeaderLine.onLine_text (h.lines_wellFormed _ hmem)
  exact lineEnd.exists_append_text hline.2

theorem split_flatten_pieces (h : HeadText) : Lines.split '\n' h.pieces.flatten = h.pieces :=
  Lines.split_flatten fun _ hl => exists_of_mem_pieces hl

/-- Lines that were put together are nothing, or end with a line feed. -/
theorem flatten_pieces_complete (h : HeadText) :
    h.pieces.flatten = [] ∨ h.pieces.flatten.getLast? = some '\n' := by
  rcases List.eq_nil_or_concat h.pieces with hnil | ⟨front, l, hconcat⟩
  · exact .inl (by rw [hnil]; rfl)
  · obtain ⟨l', -, rfl⟩ := exists_of_mem_pieces (h := h) (l := l) (by simp [hconcat])
    refine .inr ?_
    rw [hconcat, List.concat_eq_append, List.flatten_append, List.flatten_singleton,
      ← List.append_assoc]
    exact List.getLast?_concat

/-- Without their ends, the lines are what was written on them. -/
theorem map_chomp_pieces (h : HeadText) :
    h.pieces.map Text.chomp = h.lines.map fun l => l.1.text := by
  unfold pieces
  rw [List.map_map]
  refine List.map_congr_left fun l hl => ?_
  exact Text.chomp_append_text (HeaderLine.onLine_text (h.lines_wellFormed l hl)).1 l.2

theorem chomp_ne_nil_of_mem_pieces (hl : l ∈ h.pieces) : l.chomp ≠ [] := by
  have hchomp : l.chomp ∈ h.lines.map fun l => l.1.text := by
    rw [← map_chomp_pieces]
    exact List.mem_map_of_mem hl
  obtain ⟨line, hmem, hline⟩ := List.mem_map.1 hchomp
  rw [← hline]
  exact HeaderLine.text_ne_nil (h.lines_wellFormed line hmem)

/-- The lines name the fields that they were written for. -/
theorem filterMap_pieces (h : HeadText) :
    (h.pieces.map Text.chomp).filterMap Fields.readLine? = h.fields := by
  rw [map_chomp_pieces, List.filterMap_map]
  refine List.filterMap_congr fun l hl => ?_
  exact HeaderLine.readLine?_text (h.lines_wellFormed l hl)

theorem emptyLine_blankEnd (h : HeadText) : Request.EmptyLine (Utf8.encode h.blankEnd.text) := by
  cases h.blankEnd with
  | lf => exact .inl rfl
  | crlf => exact .inr rfl

/-- The request line up to its line feed, the lines behind it, and the empty line. -/
theorem encode_text (h : HeadText) : ∃ line, '\n' ∉ line ∧
    h.requestLine ++ h.lineEnd.text = line ++ ['\n'] ∧
    Utf8.encode h.text
      = Utf8.encode (line ++ '\n' :: h.pieces.flatten) ++ Utf8.encode h.blankEnd.text := by
  obtain ⟨line, hline, heq⟩ := h.lineEnd.exists_append_text h.onLine_requestLine.2
  refine ⟨line, hline, heq, ?_⟩
  unfold text
  rw [heq, Utf8.encode_append, List.append_assoc line, List.singleton_append]

end HeadText

/-! ### Reading it -/

namespace Request

/-- The parts of a target around its first question mark. -/
theorem ofTarget_eq (method target : Text) (headers : Fields) :
    ofTarget method target headers
      = ⟨method, target.takeWhile (· ≠ '?'), (target.dropWhile (· ≠ '?')).tail, headers⟩ := by
  unfold ofTarget
  by_cases hmark : '?' ∈ target
  · obtain ⟨front, back, rfl, hfront⟩ := List.eq_append_cons_of_mem hmark
    have hne : ∀ c ∈ front, decide (c ≠ '?') = true := by
      intro c hc
      exact decide_eq_true fun e => hfront (e ▸ hc)
    rw [Text.splitOnce_append hfront, List.takeWhile_append_of_pos hne,
      List.dropWhile_append_of_pos hne]
    simp
  · have hne : ∀ c ∈ target, decide (c ≠ '?') = true := by
      intro c hc
      exact decide_eq_true fun e => hmark (e ▸ hc)
    rw [Text.splitOnce_of_not_mem hmark, List.takeWhile_eq_self_iff.2 hne,
      List.dropWhile_eq_nil_iff.2 hne]
    rfl

/-- **A head is read as what was written.** The bound is not below its length, and any bytes may
follow. The request has the method, the target up to its first question mark and behind it, and
under each name the value of the last line with this name. How the lines end, the version, the lines
that are no headers and what follows the head do not come into it. -/
theorem read_headText_append {bound : Nat} (h : HeadText)
    (hbound : (Utf8.encode h.text).length ≤ bound) (more : Bytes) :
    read bound (Utf8.encode h.text ++ more)
      = .ok ⟨h.method, h.target.takeWhile (· ≠ '?'), (h.target.dropWhile (· ≠ '?')).tail,
          Fields.ofList h.fields⟩ ∧
    (∀ name value, (Fields.ofList h.fields).get? name = some value ↔
      Fields.LastOf h.fields name value) ∧
    ∀ name value, (name, value) ∈ Fields.ofList h.fields ↔ Fields.LastOf h.fields name value := by
  obtain ⟨-, hmethod, -⟩ := h.method_word
  obtain ⟨htarget, htarget', -⟩ := h.target_word
  obtain ⟨line, hline, hend, htext⟩ := h.encode_text
  -- the request line without its end
  have hchomp : Text.chomp (line ++ ['\n']) = h.requestLine := by
    rw [← hend]
    exact Text.chomp_append_text h.onLine_requestLine.1 h.lineEnd
  have hne : Text.chomp (line ++ ['\n']) ≠ [] := by
    rw [hchomp]
    simp [HeadText.requestLine]
  have hwords : readRequestLine h.requestLine = (h.method, h.target) :=
    readRequestLine_words hmethod htarget' htarget
  -- the lines behind it
  have hcollect : collect [] (Lines.split '\n' h.pieces.flatten) = Fields.ofList h.fields := by
    rw [h.split_flatten_pieces,
      collect_of_ne_nil fun l hl => HeadText.chomp_ne_nil_of_mem_pieces hl, h.filterMap_pieces]
    rfl
  refine ⟨?_, fun name value => Fields.get?_ofList_iff, fun name value => Fields.mem_ofList_iff⟩
  rw [htext] at hbound ⊢
  rw [read_encode_append hline hne h.flatten_pieces_complete h.emptyLine_blankEnd hbound more,
    hchomp, hwords, hcollect, ofTarget_eq]

/-- A head with two values for one name, another spelling of it without a value, a line that is no
header and line ends of both kinds, under a bound that is just its length and in front of a byte
that is no UTF-8. -/
theorem read_headText_append_two_hosts :
    read 67 (Utf8.encode "PUT /a?b?c=ñ HTTP/1.1 x \nHost: a:1\r\nno header\nhost: \nHost: ñ o\r\n\n"
        ++ [0xFF])
      = .ok ⟨"PUT", "/a", "b?c=ñ", [("Host", "ñ o"), ("host", [])]⟩ :=
  (@read_headText_append 67
    { method := "PUT"
      target := "/a?b?c=ñ"
      version := "HTTP/1.1 x "
      lineEnd := .lf
      lines := [(.field "Host" "a:1", .crlf), (.junk "no header", .lf), (.field "host" [], .lf),
        (.field "Host" "ñ o", .crlf)]
      blankEnd := .lf
      method_word := by decide
      target_word := by decide
      version_onLine := by decide
      lines_wellFormed := by decide }
    (by decide +kernel) [0xFF]).1

end Request

end ReflectCalc
