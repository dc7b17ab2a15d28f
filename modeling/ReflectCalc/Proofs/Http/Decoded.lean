import ReflectCalc.Proofs.Http.Response

/-!
# Responses that have been read

A response can come in many forms: with line feeds alone, with lines that name nothing, with stray
carriage returns, with a length that is not that of its body. A response that has been read is
written in one form, and this form reads back as the same response.

`Response.Decoded` says what reading leaves in a response. The reason and the headers keep to their
lines, since they were taken off lines. Names and values are trimmed, and no name holds a colon. The
length is another matter. What the headers declare need not be the length of the body, so a decoded
response need not be `Response.Sendable`. All that is left is that the declared length does not cut
the body any further, either because it has done so already or because there is less than that.

* `Response.decoded_of_parse` — whatever is read is decoded;
* `Response.parse_toBytes_of_decoded` — whatever is decoded reads back from its bytes. The argument
  is the one for sendable responses: the head that is found is the one that was written;
* `Response.parse_toBytes_of_parse` is the main result, `Response.exists_parse_eq_ok_iff` says that
  nothing has been left out of `Response.Decoded`.
-/

namespace ReflectCalc.Response

variable {r : Response} {raw : Bytes} {line reason : Text} {status : UInt16} {field : Text × Text}

/-- What reading leaves in a response. -/
structure Decoded (r : Response) : Prop where
  /-- The reason is the end of a line. -/
  reason_line : '\n' ∉ r.reason
  /-- Each header has been taken off a line. -/
  fields : ∀ field ∈ r.headers, FieldSendable field
  /-- The declared length, if there is one, leaves the body as it is. -/
  body : cutBody r.headers (Utf8.encode r.body) = Utf8.encode r.body

/-! ### What is left of a line -/

/-- What stands behind the first space of a text, if there is one, is its end. -/
theorem isSuffix_snd_splitOnce (t : Text) :
    ((Text.splitOnce ' ' t).getD (t, [])).2 <:+ t := by
  cases hsplit : Text.splitOnce ' ' t with
  | none => exact List.nil_suffix
  | some words =>
    obtain ⟨front, back⟩ := words
    obtain ⟨-, rfl⟩ := Text.splitOnce_eq_some_iff.1 hsplit
    exact (List.suffix_cons ' ' back).trans (List.suffix_append front (' ' :: back))

/-- The reason is what the status line ends with, or nothing. -/
theorem isSuffix_reason (h : readStatusLine? line = some (status, reason)) : reason <:+ line := by
  unfold readStatusLine? at h
  cases hline : Text.splitOnce ' ' line with
  | none =>
    rw [hline] at h
    cases h
  | some words =>
    obtain ⟨version, rest⟩ := words
    rw [hline] at h
    simp only [Option.bind_eq_bind, Option.bind_some] at h
    obtain ⟨-, h⟩ := Option.ite_none_right_eq_some.1 h
    obtain ⟨n, -, h⟩ := Option.bind_eq_some_iff.1 h
    have hreason : ((Text.splitOnce ' ' rest).getD (rest, [])).2 = reason :=
      (Prod.mk.inj (Option.some.inj h)).2
    obtain ⟨-, rfl⟩ := Text.splitOnce_eq_some_iff.1 hline
    -- the reason ends what follows the version, and with it the line
    subst hreason
    apply (isSuffix_snd_splitOnce rest).trans
    exact (List.suffix_cons ' ' rest).trans (List.suffix_append version (' ' :: rest))

/-- A header that has been taken off a line reads back. -/
theorem fieldSendable_of_readLine? (hline : '\n' ∉ line)
    (h : Fields.readLine? line = some field) : FieldSendable field := by
  obtain ⟨name, value⟩ := field
  obtain ⟨hne, front, back, hfront, rfl, rfl, rfl⟩ := Fields.readLine?_eq_some_iff.1 h
  exact {
    name_ne_nil := hne
    name_trimmed := Text.trimmed_trim front
    name_colon := fun hc => hfront (Text.subset_trim hc)
    name_line := fun hc => hline (List.mem_append_left _ (Text.subset_trim hc))
    value_trimmed := Text.trimmed_trim back
    value_line := fun hc =>
      hline (List.mem_append_right _ (List.mem_cons_of_mem ':' (Text.subset_trim hc))) }

/-- A body that has been cut is not cut again. -/
theorem cutBody_cutBody (fields : Fields) (bs : Bytes) :
    cutBody fields (cutBody fields bs) = cutBody fields bs := by
  unfold cutBody
  split
  · rw [List.take_take, Nat.min_self]
  · rfl

/-! ### The whole -/

/-- **Reading leaves nothing else in a response.** -/
theorem decoded_of_parse (h : parse raw = .ok r) : r.Decoded := by
  obtain ⟨head, back, -, hstatus, hheaders, hbody⟩ := parse_eq_ok_iff.1 h
  have hlines : ∀ l ∈ head.lines, '\n' ∉ l := fun l => Text.not_mem_of_mem_lines
  -- a head without lines has an empty first line
  have hfirst : '\n' ∉ head.lines.headD [] := by
    cases hhead : head.lines with
    | nil => exact List.not_mem_nil
    | cons l ls => exact hlines l (hhead ▸ List.mem_cons_self)
  constructor
  · intro hc
    exact hfirst ((isSuffix_reason hstatus).mem hc)
  · intro field hfield
    rw [← hheaders] at hfield
    obtain ⟨l, hl, hread⟩ := List.mem_filterMap.1 hfield
    exact fieldSendable_of_readLine? (hlines l (List.mem_of_mem_tail hl)) hread
  · rw [← hbody]
    exact cutBody_cutBody r.headers back

theorem Decoded.headLines_spec (h : r.Decoded) : ∀ l ∈ r.headLines, '\n' ∉ l ∧ l ≠ [] :=
  Response.headLines_spec h.reason_line fun field hfield =>
    ⟨(h.fields field hfield).name_line, (h.fields field hfield).value_line⟩

/-- The head that is found in the bytes of a decoded response is the one that was written. -/
theorem splitHead?_toBytes_of_decoded (h : r.Decoded) :
    splitHead? r.toBytes
      = some (Utf8.encode (Text.join "\r\n" r.headLines), Utf8.encode r.body) := by
  have hsplit := splitHead?_lines h.headLines_spec (List.cons_ne_nil _ _) (Utf8.encode r.body ++ [])
  rw [← toBytes_append, List.append_nil, List.append_nil] at hsplit
  exact hsplit

/-- **A decoded response reads back from its bytes.** -/
theorem parse_toBytes_of_decoded (h : r.Decoded) : parse r.toBytes = .ok r := by
  refine parse_eq_ok_iff.2 ⟨_, _, splitHead?_toBytes_of_decoded h, ?_⟩
  rw [Text.lines_join h.headLines_spec]
  exact ⟨readStatusLine?_statusLine r, filterMap_fieldText h.fields, h.body⟩

/-- **Just the decoded responses are what reading can give.** -/
theorem exists_parse_eq_ok_iff : (∃ raw, parse raw = .ok r) ↔ r.Decoded := by
  constructor
  · rintro ⟨raw, h⟩
    exact decoded_of_parse h
  · intro h
    exact ⟨r.toBytes, parse_toBytes_of_decoded h⟩

/-- **A response that has been read reads back from its bytes**, with its status, its reason, its
headers in their order and its body, in whatever form it came. The head that is found in these bytes
is the one that was written, so nothing in the response is taken for its end. -/
theorem parse_toBytes_of_parse (h : parse raw = .ok r) :
    parse r.toBytes = .ok r ∧
      splitHead? r.toBytes
        = some (Utf8.encode (Text.join "\r\n" r.headLines), Utf8.encode r.body) :=
  ⟨parse_toBytes_of_decoded (decoded_of_parse h),
    splitHead?_toBytes_of_decoded (decoded_of_parse h)⟩

/-- A response with line feeds and stray carriage returns, a sign before its status and no reason, a
line that names nothing, two lengths of which the second is none, and more bytes than the first
declares, the last of them no UTF-8. -/
theorem parse_toBytes_of_parse_odd_form :
    parse (Utf8.encode
        "HTTP/1.0 +404\n\rjunk\nA\rB : b\rc\r\r\ncontent-length:2\nContent-Length: x\n\nñandú"
        ++ [0xFF])
      = .ok ⟨404, [], [("A\rB", "b\rc"), ("content-length", "2"), ("Content-Length", "x")],
          "ñ"⟩ ∧
    parse (toBytes
        ⟨404, [], [("A\rB", "b\rc"), ("content-length", "2"), ("Content-Length", "x")], "ñ"⟩)
      = .ok ⟨404, [], [("A\rB", "b\rc"), ("content-length", "2"), ("Content-Length", "x")],
          "ñ"⟩ := by
  refine ⟨?read, (parse_toBytes_of_parse ?read).1⟩
  exact parse_eq_ok_iff.2 ⟨
    "HTTP/1.0 +404\n\rjunk\nA\rB : b\rc\r\r\ncontent-length:2\nContent-Length: x",
    Utf8.encode "ñandú" ++ [0xFF], by decide +kernel, by decide, by decide +kernel, by decide⟩

end ReflectCalc.Response
