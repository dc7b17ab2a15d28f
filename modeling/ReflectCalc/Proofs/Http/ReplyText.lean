import ReflectCalc.Proofs.Http.HeadText
import ReflectCalc.Proofs.Http.Response

/-!
# Replies as they are written

A `ReplyText` is a reply whose head is written with line ends of one kind. The reader looks for a
blank line with carriage returns all over the reply, and only if there is none for one without them.
So a body can move the end of a head whose lines end with line feeds, and no other.

* `ReplyText.splitHead?_text` — the head ends at the first blank line, unless the head is written
  with line feeds and the body has a blank line with carriage returns in it;
* `ReplyText.splitHead?_text_of_blank` — and then it ends at this one;
* `ReplyText.parse_text` is the main result, for both cases;
* `ReplyText.parse_blank_line_in_body` is a reply that loses a part of its body.
-/

namespace ReflectCalc

namespace Response

variable {fields : Fields}

/-- Without a declared length all that is left is the body. -/
theorem cutBody_of_undeclared
    (h : ∀ field ∈ fields, field.1.sameIgnoringCase "Content-Length" = false) (bs : Bytes) :
    cutBody fields bs = bs := by
  have hnone : declaredLength? fields = none := by
    have hfind : fields.find? (fun f => f.1.sameIgnoringCase "Content-Length") = none := by
      rw [List.find?_eq_none]
      intro field hfield
      exact Bool.eq_false_iff.1 (h field hfield)
    unfold declaredLength? Fields.getIgnoringCase?
    rw [hfind]
    rfl
  unfold cutBody
  rw [hnone]

theorem length_cutBody_le (fields : Fields) (bs : Bytes) :
    (cutBody fields bs).length ≤ bs.length := by
  unfold cutBody
  split
  · exact List.length_take_le' _ _
  · exact Nat.le_refl _

end Response

/-- A reply as it is written. -/
structure ReplyText where
  /-- What stands behind `HTTP/`. -/
  version : Text
  /-- The status in digits. -/
  code : Text
  status : UInt16
  reason : Text
  /-- The lines behind the first one. -/
  lines : List Text
  /-- The values that they name. -/
  fields : Fields
  /-- How every line ends, the empty one too. -/
  lineEnd : LineEnd
  body : Text
  version_word : ' ' ∉ version ∧ version.OnLine
  code_status : Numeral.readUnsigned? 16 code = some status.toNat
  reason_onLine : reason.OnLine
  lines_onLine : ∀ l ∈ lines, l ≠ [] ∧ l.OnLine
  lines_fields : Fields.OfLines lines fields
  fields_length : ∀ field ∈ fields, field.1.sameIgnoringCase "Content-Length" = false

namespace ReplyText

variable {l front back : Text} {ls : List Text} {fields : Fields} {t : ReplyText}

/-- The first line. -/
def statusLine (t : ReplyText) : Text :=
  "HTTP/" ++ t.version ++ ' ' :: (t.code ++ ' ' :: t.reason)

/-- The lines of the head. -/
def headLines (t : ReplyText) : List Text := t.statusLine :: t.lines

/-- The head, without the empty line. -/
def head (t : ReplyText) : Text := t.headLines.flatMap (· ++ t.lineEnd.text)

/-- The whole reply. -/
def text (t : ReplyText) : Text := t.head ++ t.lineEnd.text ++ t.body

/-- What the reply is meant to be. -/
def response (t : ReplyText) : Response := ⟨t.status, t.reason, t.fields, t.body⟩

/-! ### The lines of the head -/

theorem onLine_code (t : ReplyText) : t.code.OnLine :=
  ⟨Numeral.not_mem_of_readUnsigned? t.code_status (by decide) (by decide),
    Numeral.not_mem_of_readUnsigned? t.code_status (by decide) (by decide)⟩

theorem onLine_headLines (hl : l ∈ t.headLines) : l ≠ [] ∧ l.OnLine := by
  rcases List.mem_cons.1 hl with rfl | hl
  · have hspace : Text.OnLine [' '] := by decide
    have hhttp : Text.OnLine "HTTP/" := by decide
    have hline : t.statusLine
        = ("HTTP/" ++ t.version) ++ ([' '] ++ (t.code ++ ([' '] ++ t.reason))) := rfl
    refine ⟨by simp [statusLine], ?_⟩
    rw [hline]
    exact (hhttp.append t.version_word.2).append
      (hspace.append (t.onLine_code.append (hspace.append t.reason_onLine)))
  · exact t.lines_onLine l hl

theorem readStatusLine?_statusLine (t : ReplyText) :
    Response.readStatusLine? t.statusLine = some (t.status, t.reason) := by
  have hversion : ' ' ∉ "HTTP/" ++ t.version := by
    have hhttp : ' ' ∉ ("HTTP/" : Text) := by decide
    simpa [hhttp] using t.version_word.1
  have hcode : ' ' ∉ t.code :=
    Numeral.not_mem_of_readUnsigned? t.code_status (by decide) (by decide)
  have hread : Response.readStatusLine? t.statusLine
      = some (UInt16.ofNat t.status.toNat, t.reason) :=
    Response.readStatusLine?_words (Text.splitOnce_append hversion) (by rfl)
      (Text.splitOnce_append hcode) t.code_status
  rw [hread, UInt16.ofNat_toNat]

theorem head_eq_join (t : ReplyText) :
    t.head = Text.join t.lineEnd.text t.headLines ++ t.lineEnd.text :=
  Text.flatMap_append_eq_join (List.cons_ne_nil _ _) _

/-- Behind the last line of the head stand its own end and the empty line. -/
theorem encode_text (t : ReplyText) :
    Utf8.encode t.text = Utf8.encode (Text.join t.lineEnd.text t.headLines)
      ++ (Utf8.encode (t.lineEnd.text ++ t.lineEnd.text) ++ Utf8.encode t.body) := by
  unfold text
  rw [head_eq_join]
  simp only [Utf8.encode_append, List.append_assoc]

theorem lines_join_headLines (t : ReplyText) :
    (Text.join t.lineEnd.text t.headLines).lines = t.headLines :=
  Text.lines_join_text (fun _ hl => ⟨(onLine_headLines hl).2.2, (onLine_headLines hl).1⟩)
    fun _ _ hl => (onLine_headLines hl).2.1

/-! ### The end of the head -/

/-- A head that is written with line feeds has no carriage return in it. -/
theorem not_mem_head (he : t.lineEnd = .lf) : '\r' ∉ t.head ++ "\n" := by
  unfold head
  rw [he]
  simp only [List.mem_append, List.mem_flatMap, not_or, not_exists, not_and]
  exact ⟨fun l hl => ⟨(onLine_headLines hl).2.1, by decide⟩, by decide⟩

/-- So a blank line with carriage returns can only be one of the body. -/
theorem cutAt?_blankLine_text (he : t.lineEnd = .lf) :
    Response.cutAt? Response.blankLine (Utf8.encode t.text)
      = (Response.cutAt? Response.blankLine (Utf8.encode t.body)).map
          fun (front, back) => (Utf8.encode (t.head ++ "\n") ++ front, back) := by
  have hmem : (0x0D : UInt8) ∉ Utf8.encode (t.head ++ "\n") := fun h =>
    not_mem_head he ((Utf8.mem_encode_iff (by decide)).1 h)
  unfold text
  rw [he, Utf8.encode_append]
  exact Response.cutAt?_skip hmem

/-- A blank line without carriage returns ends the head. -/
theorem cutAt?_lineFeeds_text (he : t.lineEnd = .lf) :
    Response.cutAt? [0x0A, 0x0A] (Utf8.encode t.text)
      = some (Utf8.encode (Text.join t.lineEnd.text t.headLines), Utf8.encode t.body) := by
  -- there is none in the head, since no line is empty
  have hnot : ¬ ['\n', '\n'] <:+: t.head := by
    refine LineEnd.not_infix_flatMap_text (fun l hl => (onLine_headLines hl).2.2) ?_
    intro l hl hline
    rw [he] at hline
    have hlength := congrArg List.length hline
    simp only [LineEnd.text, List.length_append, List.length_cons, List.length_nil] at hlength
    exact (onLine_headLines hl).1 (List.length_eq_zero_iff.1 (Nat.succ.inj hlength))
  have hhead : Utf8.encode (Text.join t.lineEnd.text t.headLines) ++ [0x0A]
      = Utf8.encode t.head := by
    rw [head_eq_join, Utf8.encode_append, he]
    rfl
  have hfirst : ¬ [0x0A, 0x0A]
      <:+: Utf8.encode (Text.join t.lineEnd.text t.headLines) ++ [0x0A] := by
    rw [hhead]
    exact fun h => hnot ((Utf8.encode_infix_iff (by decide)).1 h)
  rw [encode_text, ← List.append_assoc]
  have hcut := Response.cutAt?_of_not_infix (by decide) hfirst (Utf8.encode t.body)
  rw [he] at hcut ⊢
  exact hcut

/-- **The head ends at its first blank line**, unless it is written with line feeds and there is a
blank line with carriage returns in the body. -/
theorem splitHead?_text (h : t.lineEnd = .lf → ¬ ("\r\n\r\n" : Text) <:+: t.body) :
    Response.splitHead? (Utf8.encode t.text)
      = some (Utf8.encode (Text.join t.lineEnd.text t.headLines), Utf8.encode t.body) := by
  cases he : t.lineEnd with
  | crlf =>
    -- the blank line of the head is the first one of all, so the body does not matter
    rw [encode_text, he]
    exact Response.splitHead?_lines
      (fun l hl => ⟨(onLine_headLines hl).2.2, (onLine_headLines hl).1⟩) (List.cons_ne_nil _ _) _
  | lf =>
    -- none is found of the kind that is looked for first
    have hnone : Response.cutAt? Response.blankLine (Utf8.encode t.body) = none := by
      rw [Response.cutAt?_eq_none_iff (by decide)]
      exact fun hinfix => h he ((Utf8.encode_infix_iff (by decide)).1 hinfix)
    have htext := cutAt?_blankLine_text he
    rw [hnone, Option.map_none] at htext
    rw [Response.splitHead?_of_cutAt?_eq_none htext, cutAt?_lineFeeds_text he, he]

/-- **A blank line with carriage returns is taken for the end of a head without any**, wherever it
stands in the body. -/
theorem splitHead?_text_of_blank (he : t.lineEnd = .lf)
    (hbody : t.body = front ++ "\r\n\r\n" ++ back)
    (hfirst : ¬ ("\r\n\r\n" : Text) <:+: front ++ "\r\n\r") :
    Response.splitHead? (Utf8.encode t.text)
      = some (Utf8.encode (t.head ++ "\n" ++ front), Utf8.encode back) := by
  have hcut : Response.cutAt? Response.blankLine (Utf8.encode t.body)
      = some (Utf8.encode front, Utf8.encode back) := by
    rw [hbody, Utf8.encode_append, Utf8.encode_append]
    refine Response.cutAt?_of_not_infix (by decide) (fun hinfix => hfirst ?_) _
    refine (Utf8.encode_infix_iff (by decide)).1 ?_
    rw [Utf8.encode_append]
    exact hinfix
  have htext := cutAt?_blankLine_text he
  rw [hcut, Option.map_some] at htext
  rw [Response.splitHead?_of_cutAt?_eq_some htext, Utf8.encode_append _ front]

/-! ### The whole -/

/-- A reply without a length is read from its lines and what stands behind its head. -/
theorem parse_of_splitHead? {raw : Bytes} {text : Text}
    (hsplit : Response.splitHead? raw = some (Utf8.encode text, Utf8.encode back))
    (hlines : text.lines = t.statusLine :: ls) (hfields : Fields.OfLines ls fields)
    (hlength : ∀ field ∈ fields, field.1.sameIgnoringCase "Content-Length" = false) :
    Response.parse raw = .ok ⟨t.status, t.reason, fields, back⟩ := by
  refine Response.parse_eq_ok_iff.2 ⟨text, _, hsplit, ?_⟩
  rw [hlines]
  exact ⟨t.readStatusLine?_statusLine, Fields.ofLines_iff.1 hfields,
    Response.cutBody_of_undeclared hlength _⟩

/-- The lines of a head that goes on into the body. -/
theorem lines_head_append (he : t.lineEnd = .lf) (front : Text) :
    (t.head ++ "\n" ++ front).lines = t.statusLine :: (t.lines ++ [] :: front.lines) := by
  have hhead : t.head ++ "\n" ++ front
      = (t.headLines ++ [[]]).flatMap (· ++ LineEnd.lf.text) ++ front := by
    unfold head
    rw [he]
    simp [LineEnd.text]
  -- the empty line keeps to its line as the others do
  have honLine : ∀ l ∈ t.headLines ++ [[]], l.OnLine := by
    simp only [List.mem_append, List.mem_singleton]
    rintro l (hl | rfl)
    · exact (onLine_headLines hl).2
    · decide
  rw [hhead, Text.lines_flatMap_text_append (fun l hl => (honLine l hl).2)
    fun _ l hl => (honLine l hl).1, List.append_assoc]
  rfl

/-- Less than the body is left behind a blank line in it. -/
theorem parse_text_ne_of_infix (he : t.lineEnd = .lf)
    (hblank : ("\r\n\r\n" : Text) <:+: t.body) :
    Response.parse (Utf8.encode t.text) ≠ .ok t.response := by
  intro h
  have hfound : Response.cutAt? Response.blankLine (Utf8.encode t.body) ≠ none := by
    rw [ne_eq, Response.cutAt?_eq_none_iff (by decide), not_not]
    exact (Utf8.encode_infix_iff (by decide)).2 hblank
  obtain ⟨⟨front, back⟩, hparts⟩ := Option.ne_none_iff_exists'.1 hfound
  have htext := cutAt?_blankLine_text he
  rw [hparts, Option.map_some] at htext
  obtain ⟨head, back', hsplit, -, -, hbody⟩ := Response.parse_eq_ok_iff.1 h
  rw [Response.splitHead?_of_cutAt?_eq_some htext] at hsplit
  obtain ⟨-, rfl⟩ := Prod.mk.inj (Option.some.inj hsplit)
  -- the mark itself is missing from what is left
  have hle : (Utf8.encode t.body).length ≤ back.length :=
    hbody ▸ Response.length_cutBody_le t.response.headers back
  rw [Response.cutAt?_eq_some hparts] at hle
  simp only [List.length_append, Response.blankLine, List.length_cons] at hle
  omega

/-- **A reply without a length is read as it is meant, unless a blank line with carriage returns
stands in the body and none at the end of the head.** If so, the first such line ends the head: what
the lines before it name is added to the headers, and only what stands behind it is the body. -/
theorem parse_text (t : ReplyText) :
    (Response.parse (Utf8.encode t.text) = .ok t.response ↔
      (t.lineEnd = .lf → ¬ ("\r\n\r\n" : Text) <:+: t.body)) ∧
    ∀ front back fields, t.lineEnd = .lf → t.body = front ++ "\r\n\r\n" ++ back →
      ¬ ("\r\n\r\n" : Text) <:+: front ++ "\r\n\r" → Fields.OfLines front.lines fields →
      (∀ field ∈ fields, field.1.sameIgnoringCase "Content-Length" = false) →
      Response.parse (Utf8.encode t.text)
        = .ok ⟨t.status, t.reason, t.fields ++ fields, back⟩ := by
  refine ⟨⟨fun h he hblank => parse_text_ne_of_infix he hblank h, fun h => ?_⟩, ?_⟩
  · exact parse_of_splitHead? (splitHead?_text h) t.lines_join_headLines t.lines_fields
      t.fields_length
  · intro front back fields he hbody hfirst hfields hlength
    refine parse_of_splitHead? (splitHead?_text_of_blank he hbody hfirst)
      (lines_head_append he front) ?_ ?_
    · -- the empty line names nothing
      rw [Fields.ofLines_iff, List.filterMap_append, Fields.ofLines_iff.1 t.lines_fields,
        List.filterMap_cons_none rfl, Fields.ofLines_iff.1 hfields]
    · intro field hfield
      exact (List.mem_append.1 hfield).elim (t.fields_length field) (hlength field)

/-- A body that begins like a header. -/
theorem parse_text_forged_header :
    Response.parse (Utf8.encode "HTTP/1.1 200 OK\nA: b\n\nX-C: d\r\n\r\nrest")
      = .ok ⟨200, "OK", [("A", "b"), ("X-C", "d")], "rest"⟩ :=
  (parse_text ⟨"1.1", "200", 200, "OK", ["A: b"], [("A", "b")], .lf, "X-C: d\r\n\r\nrest",
      by decide, by decide, by decide, by decide, Fields.ofLines_iff.2 (by decide), by decide⟩).2
    "X-C: d" "rest" [("X-C", "d")] rfl (by decide) (by decide) (Fields.ofLines_iff.2 (by decide))
    (by decide)

/-- Of a body with a blank line in it only the second part is left. -/
theorem parse_blank_line_in_body :
    Response.parse (Utf8.encode "HTTP/1.1 200 OK\nA: b\n\nbody\r\n\r\nrest")
      = .ok ⟨200, "OK", [("A", "b")], "rest"⟩ :=
  Response.parse_eq_ok_iff.2 ⟨"HTTP/1.1 200 OK\nA: b\n\nbody", Utf8.encode "rest",
    by decide, by decide, by decide, by decide⟩

end ReplyText

end ReflectCalc
