import ReflectCalc.Proofs.Http.Fields
import ReflectCalc.Proofs.Http.ResponseReader
import ReflectCalc.Proofs.Number.Numeral

/-!
# Writing a response and reading it again

The reader looks for the first blank line, takes the head apart, and takes as much of the rest as
the head declares. A response reads back when none of its parts can be mistaken for another one
(`Response.Sendable`): the reason and the headers keep to their lines, names are trimmed and hold no
colon, values are trimmed, and the declared length is that of the body.

* `splitHead?_lines` — the first blank line is the one behind the headers, since no line of the head
  is empty, so no body can make the head shorter or longer;
* `parse_toBytes` — a sendable response reads back, whatever bytes follow it;
* `Built` are the responses that this program can build. They are sendable (`sendable_make`), so
  they all read back (`parse_toBytes_of_built`).
-/

namespace ReflectCalc.Response

variable {l : Text} {ls : List Text} {r : Response} {bs rest : Bytes}

/-! ### The end of the head -/

/-- The bytes of a blank line and of the line end before it. -/
def blankLine : Bytes := [0x0D, 0x0A, 0x0D, 0x0A]

/-- No blank line begins inside a line. -/
theorem not_blankLine_cons {b : UInt8} (hbs : 0x0A ∉ bs) :
    ¬ blankLine.isPrefixOf (b :: (bs ++ 0x0D :: rest)) = true := by
  -- the second byte would have to be a line feed, but is inside the line or a carriage return
  cases bs with
  | nil => simp [blankLine, List.isPrefixOf]
  | cons b' bs =>
    have hb' : (0x0A : UInt8) ≠ b' := List.ne_of_not_mem_cons hbs
    simp [blankLine, List.isPrefixOf, hb']

/-- No blank line begins inside a line, nor at its end unless another line end follows. -/
theorem cutAt?_line (hbs : 0x0A ∉ bs) (hrest : ¬ [0x0D, 0x0A] <+: rest) :
    cutAt? blankLine (bs ++ 0x0D :: 0x0A :: rest)
      = (cutAt? blankLine rest).map fun (front, back) => (bs ++ 0x0D :: 0x0A :: front, back) := by
  induction bs with
  | nil =>
    -- the line end is that of a blank line only if `rest` begins with another one
    have hhere : blankLine.isPrefixOf (0x0D :: 0x0A :: rest) = false := by
      rw [Bool.eq_false_iff]
      intro h
      exact hrest (List.isPrefixOf_iff_prefix.1 (by simpa [blankLine, List.isPrefixOf] using h))
    have hnext : blankLine.isPrefixOf (0x0A :: rest) = false := rfl
    rw [List.nil_append, cutAt?, if_neg (by simp [hhere]), cutAt?, if_neg (by simp [hnext])]
    cases cutAt? blankLine rest <;> rfl
  | cons b bs ih =>
    have hbs' : 0x0A ∉ bs := List.not_mem_of_not_mem_cons hbs
    rw [List.cons_append, cutAt?, if_neg (not_blankLine_cons hbs'), ih hbs']
    cases cutAt? blankLine rest <;> rfl

/-- The blank line behind the last line is found. -/
theorem cutAt?_blankLine (hbs : 0x0A ∉ bs) :
    cutAt? blankLine (bs ++ (blankLine ++ rest)) = some (bs, rest) := by
  induction bs with
  | nil => rfl
  | cons b bs ih =>
    have hbs' : 0x0A ∉ bs := List.not_mem_of_not_mem_cons hbs
    have hhere : ¬ blankLine.isPrefixOf (b :: (bs ++ (blankLine ++ rest))) = true :=
      not_blankLine_cons hbs'
    rw [List.cons_append, cutAt?, if_neg hhere, ih hbs']
    rfl

theorem not_mem_encode_of_not_mem (h : '\n' ∉ l) : (0x0A : UInt8) ∉ Utf8.encode l := fun hmem =>
  h ((Utf8.mem_encode_iff (by decide)).1 hmem)

/-- A line that is not empty does not begin with a line end. -/
theorem not_prefix_line (hl : '\n' ∉ l) (hne : l ≠ []) :
    ¬ [0x0D, 0x0A] <+: Utf8.encode l ++ 0x0D :: rest := by
  have hmem := not_mem_encode_of_not_mem hl
  cases hbytes : Utf8.encode l with
  | nil => exact absurd hbytes (Utf8.encode_ne_nil hne)
  | cons b bs =>
    rw [hbytes] at hmem
    cases bs with
    | nil => simp
    | cons b' bs =>
      have hb' : (0x0A : UInt8) ≠ b' :=
        List.ne_of_not_mem_cons (List.not_mem_of_not_mem_cons hmem)
      simp [hb']

theorem encode_join_cons (l l' : Text) (ls : List Text) :
    Utf8.encode (Text.join "\r\n" (l :: l' :: ls))
      = Utf8.encode l ++ 0x0D :: 0x0A :: Utf8.encode (Text.join "\r\n" (l' :: ls)) := by
  have hjoin : Text.join "\r\n" (l :: l' :: ls) = l ++ ("\r\n" ++ Text.join "\r\n" (l' :: ls)) := by
    simp [Text.join]
  rw [hjoin, Utf8.encode_append, Utf8.encode_append]
  rfl

/-- Lines that are not empty do not begin with a line end, taken together. -/
theorem not_prefix_lines (hls : ∀ l ∈ ls, '\n' ∉ l ∧ l ≠ []) (hne : ls ≠ []) :
    ¬ [0x0D, 0x0A] <+: Utf8.encode (Text.join "\r\n" ls) ++ (blankLine ++ rest) := by
  cases ls with
  | nil => exact absurd rfl hne
  | cons l ls =>
    obtain ⟨hl, hlne⟩ := hls l List.mem_cons_self
    cases ls with
    | nil => exact not_prefix_line hl hlne
    | cons l' ls =>
      rw [encode_join_cons, List.append_assoc]
      exact not_prefix_line hl hlne

/-- The blank line behind the last of some lines is found. -/
theorem cutAt?_lines (hls : ∀ l ∈ ls, '\n' ∉ l ∧ l ≠ []) (hne : ls ≠ []) :
    cutAt? blankLine (Utf8.encode (Text.join "\r\n" ls) ++ (blankLine ++ rest))
      = some (Utf8.encode (Text.join "\r\n" ls), rest) := by
  induction ls with
  | nil => exact absurd rfl hne
  | cons l ls ih =>
    obtain ⟨⟨hl, -⟩, hls'⟩ := List.forall_mem_cons.1 hls
    have hl := not_mem_encode_of_not_mem hl
    cases ls with
    | nil => exact cutAt?_blankLine hl
    | cons l' ls =>
      -- the next line is not empty, so the search goes on behind the end of this one
      rw [encode_join_cons, List.append_assoc, List.cons_append, List.cons_append,
        cutAt?_line hl (not_prefix_lines hls' (by simp)), ih hls' (by simp)]
      rfl

/-- If there is a blank line with carriage returns, the other kind is not looked for. -/
theorem splitHead?_of_cutAt?_eq_some {parts : Bytes × Bytes} (h : cutAt? blankLine bs = some parts) :
    splitHead? bs = some parts := by
  unfold splitHead?
  change (cutAt? blankLine bs <|> _) = _
  rw [h]
  rfl

theorem splitHead?_of_cutAt?_eq_none (h : cutAt? blankLine bs = none) :
    splitHead? bs = cutAt? [0x0A, 0x0A] bs := by
  unfold splitHead?
  change (cutAt? blankLine bs <|> _) = _
  rw [h]
  rfl

/-- **The head ends behind its last line.** -/
theorem splitHead?_lines (hls : ∀ l ∈ ls, '\n' ∉ l ∧ l ≠ []) (hne : ls ≠ []) (rest : Bytes) :
    splitHead? (Utf8.encode (Text.join "\r\n" ls) ++ (blankLine ++ rest))
      = some (Utf8.encode (Text.join "\r\n" ls), rest) :=
  splitHead?_of_cutAt?_eq_some (cutAt?_lines hls hne)

/-! ### Lines of a head -/

/-- A header on its line, without the line end. -/
def fieldText (field : Text × Text) : Text := field.1 ++ ": " ++ field.2

/-- The lines of a head. -/
def headLines (r : Response) : List Text := r.statusLine :: r.headers.map fieldText

/-- Lines that end with a line end each are lines with line ends between them and one at the end. -/
theorem append_flatMap_headerLine (l : Text) (fields : Fields) :
    l ++ "\r\n" ++ fields.flatMap headerLine ++ "\r\n"
      = Text.join "\r\n" (l :: fields.map fieldText) ++ "\r\n\r\n" := by
  induction fields generalizing l with
  | nil => simp [Text.join]
  | cons field fields ih =>
    -- the first header takes the place of the first line
    have hfield := ih (fieldText field)
    simp only [List.append_assoc] at hfield
    simp only [List.flatMap_cons, List.map_cons, Text.join, headerLine, List.append_assoc]
    rw [← hfield]
    simp only [fieldText, List.append_assoc]

/-- Behind the last line stand its own end and a blank line. -/
theorem head_eq (r : Response) : r.head = Text.join "\r\n" r.headLines ++ "\r\n\r\n" :=
  append_flatMap_headerLine r.statusLine r.headers

/-- A header that reads back from its line. -/
structure FieldSendable (field : Text × Text) : Prop where
  name_ne_nil : field.1 ≠ []
  name_trimmed : Text.Trimmed field.1
  name_colon : ':' ∉ field.1
  name_line : '\n' ∉ field.1
  value_trimmed : Text.Trimmed field.2
  value_line : '\n' ∉ field.2

/-- A response that reads back from its bytes. -/
structure Sendable (r : Response) : Prop where
  reason_line : '\n' ∉ r.reason
  fields : ∀ field ∈ r.headers, FieldSendable field
  length : declaredLength? r.headers = some (Utf8.encode r.body).length

/-- Headers come back from their lines, their values without the white space around them. -/
theorem filterMap_fieldText_of_named {fields : Fields}
    (h : ∀ field ∈ fields, field.1 ≠ [] ∧ Text.Trimmed field.1 ∧ ':' ∉ field.1) :
    (fields.map fieldText).filterMap Fields.readLine?
      = fields.map fun field => (field.1, field.2.trim) := by
  induction fields with
  | nil => rfl
  | cons field fields ih =>
    obtain ⟨⟨hne, htrimmed, hcolon⟩, hfields⟩ := List.forall_mem_cons.1 h
    have hfield : Fields.readLine? (fieldText field) = some (field.1, field.2.trim) :=
      Fields.readLine?_colon hne htrimmed hcolon field.2
    rw [List.map_cons, List.filterMap_cons_some hfield, ih hfields, List.map_cons]

theorem filterMap_fieldText {fields : Fields} (h : ∀ field ∈ fields, FieldSendable field) :
    (fields.map fieldText).filterMap Fields.readLine? = fields := by
  rw [filterMap_fieldText_of_named fun field hfield =>
    ⟨(h field hfield).name_ne_nil, (h field hfield).name_trimmed, (h field hfield).name_colon⟩]
  refine (List.map_congr_left fun field hfield => ?_).trans (List.map_id fields)
  rw [Text.trim_of_trimmed (h field hfield).value_trimmed]
  rfl

/-- The three words of a status line, the last of which may hold spaces. -/
theorem readStatusLine?_words {line version rest code reason : Text} {status : Nat}
    (hline : Text.splitOnce ' ' line = some (version, rest))
    (hversion : version.startsWith "HTTP/" = true)
    (hrest : Text.splitOnce ' ' rest = some (code, reason))
    (hstatus : Numeral.readUnsigned? 16 code = some status) :
    readStatusLine? line = some (UInt16.ofNat status, reason) := by
  unfold readStatusLine?
  simp only [hline, Option.bind_eq_bind, Option.bind_some, if_pos hversion, hrest, Option.getD_some,
    hstatus]
  rfl

theorem readStatusLine?_statusLine (r : Response) :
    readStatusLine? r.statusLine = some (r.status, r.reason) := by
  have hline : r.statusLine
      = ("HTTP/1.1" : Text) ++ ' ' :: (Numeral.ofNat r.status.toNat ++ ' ' :: r.reason) := by
    unfold statusLine
    simp
  have hstatus : Numeral.readUnsigned? 16 (Numeral.ofNat r.status.toNat) = some r.status.toNat :=
    Numeral.readUnsigned?_ofNat r.status.toNat_lt
  have hread := readStatusLine?_words
    (hline ▸ Text.splitOnce_append (by decide)) (by decide)
    (Text.splitOnce_append (Numeral.not_mem_ofNat (by decide))) hstatus
  rw [hread, UInt16.ofNat_toNat]

/-- No line of a head is empty or goes on behind its end, as long as the parts of the response keep
to their lines. -/
theorem headLines_spec (hreason : '\n' ∉ r.reason)
    (hfields : ∀ field ∈ r.headers, '\n' ∉ field.1 ∧ '\n' ∉ field.2) :
    ∀ l ∈ r.headLines, '\n' ∉ l ∧ l ≠ [] := by
  intro l hl
  rcases List.mem_cons.1 hl with rfl | hl
  · have hnumeral : '\n' ∉ Numeral.ofNat r.status.toNat := Numeral.not_mem_ofNat (by decide)
    unfold statusLine
    simp [hnumeral, hreason]
  · obtain ⟨field, hfield, rfl⟩ := List.mem_map.1 hl
    obtain ⟨hname, hvalue⟩ := hfields field hfield
    unfold fieldText
    simp [hname, hvalue]

theorem Sendable.headLines_spec (h : r.Sendable) : ∀ l ∈ r.headLines, '\n' ∉ l ∧ l ≠ [] :=
  Response.headLines_spec h.reason_line fun field hfield =>
    ⟨(h.fields field hfield).name_line, (h.fields field hfield).value_line⟩

/-! ### The whole -/

theorem cutBody_append (h : r.Sendable) (rest : Bytes) :
    cutBody r.headers (Utf8.encode r.body ++ rest) = Utf8.encode r.body := by
  unfold cutBody
  rw [h.length]
  exact List.take_left

/-- The bytes of a response end its head with a blank line, and its body follows. -/
theorem toBytes_append (r : Response) (rest : Bytes) :
    r.toBytes ++ rest = Utf8.encode (Text.join "\r\n" r.headLines)
      ++ (blankLine ++ (Utf8.encode r.body ++ rest)) := by
  unfold toBytes wire
  rw [head_eq, Utf8.encode_append, Utf8.encode_append]
  simp only [List.append_assoc]
  rfl

/-- **The head that is found is the one that was written**, whatever the body and the bytes behind
it look like. -/
theorem splitHead?_toBytes (h : r.Sendable) (rest : Bytes) :
    splitHead? (r.toBytes ++ rest)
      = some (Utf8.encode (Text.join "\r\n" r.headLines), Utf8.encode r.body ++ rest) := by
  rw [toBytes_append, splitHead?_lines h.headLines_spec (by simp [headLines])]

/-- **A sendable response reads back from its bytes**, whatever follows them. -/
theorem parse_toBytes (h : r.Sendable) (rest : Bytes) : parse (r.toBytes ++ rest) = .ok r := by
  -- the head ends behind the headers, and its lines are those that were written
  refine parse_eq_ok_iff.2 ⟨_, _, splitHead?_toBytes h rest, ?_⟩
  rw [Text.lines_join h.headLines_spec]
  -- each line is read alone, and the body is cut to the length that was declared
  exact ⟨readStatusLine?_statusLine r, filterMap_fieldText h.fields, cutBody_append h rest⟩

/-! ### Responses of this program -/

/-- What has to be said of a fixed name is decided at once, and the value is left. -/
theorem fieldSendable_of_name {name value : Text} (hname : name ≠ [] ∧ Text.Trimmed name ∧
    ':' ∉ name ∧ '\n' ∉ name) (htrimmed : Text.Trimmed value) (hline : '\n' ∉ value) :
    FieldSendable (name, value) :=
  ⟨hname.1, hname.2.1, hname.2.2.1, hname.2.2.2, htrimmed, hline⟩

/-- **The responses of this program are sendable**, as long as the length of the body fits 64
bits. -/
theorem sendable_make {status : UInt16} {reason contentType body : Text} (hreason : '\n' ∉ reason)
    (htrimmed : Text.Trimmed contentType) (htype : '\n' ∉ contentType)
    (hlength : (Utf8.encode body).length < twoTo 64) :
    (make status reason contentType body).Sendable where
  reason_line := hreason
  fields := by
    intro field hfield
    simp only [make, List.mem_cons, List.not_mem_nil, or_false] at hfield
    rcases hfield with rfl | rfl | rfl | rfl
    · exact fieldSendable_of_name (by decide) htrimmed htype
    · exact fieldSendable_of_name (by decide) Numeral.trimmed_ofNat
        (Numeral.not_mem_ofNat (by decide))
    · exact fieldSendable_of_name (by decide) (by decide) (by decide)
    · exact fieldSendable_of_name (by decide) (by decide) (by decide)
  length := Numeral.readUnsigned?_ofNat hlength

/-- The responses that can be built: each from a status, a reason and a type that keep to their
lines, or by one of the six builders that fix these. -/
inductive Built : Response → Prop where
  | make (status : UInt16) {reason contentType : Text} (body : Text) (hreason : '\n' ∉ reason)
      (htrimmed : Text.Trimmed contentType) (htype : '\n' ∉ contentType) :
      Built (make status reason contentType body)
  | json (body : Text) : Built (json body)
  | plain (body : Text) : Built (plain body)
  | html (body : Text) : Built (html body)
  | notFound (message : Text) : Built (notFound message)
  | badRequest (message : Text) : Built (badRequest message)
  | serverError (message : Text) : Built (serverError message)

theorem Built.sendable (h : Built r) (hlength : (Utf8.encode r.body).length < twoTo 64) :
    r.Sendable := by
  cases h with
  | make status body hreason htrimmed htype => exact sendable_make hreason htrimmed htype hlength
  | json body => exact sendable_make (by decide) (by decide) (by decide) hlength
  | plain body => exact sendable_make (by decide) (by decide) (by decide) hlength
  | html body => exact sendable_make (by decide) (by decide) (by decide) hlength
  | notFound message => exact sendable_make (by decide) (by decide) (by decide) hlength
  | badRequest message => exact sendable_make (by decide) (by decide) (by decide) hlength
  | serverError message => exact sendable_make (by decide) (by decide) (by decide) hlength

/-- The declared length of a response that was built is that of its body in bytes. -/
theorem Built.header?_contentLength (h : Built r) :
    r.header? "Content-Length" = some (Numeral.ofNat (Utf8.encode r.body).length) := by
  cases h <;> rfl

/-- **Every response that can be built reads back from its bytes**, with its status, its reason, its
headers in their order and its body, whatever bytes follow. The head that is found is the one that
was written, so nothing of a body is taken for a header, and the declared length is that of the body
in bytes. A body in memory has fewer than `2 ^ 64` of them. -/
theorem parse_toBytes_of_built (h : Built r)
    (hlength : (Utf8.encode r.body).length < twoTo 64) (rest : Bytes) :
    parse (r.toBytes ++ rest) = .ok r ∧
      splitHead? (r.toBytes ++ rest)
        = some (Utf8.encode (Text.join "\r\n" r.headLines), Utf8.encode r.body ++ rest) ∧
      r.header? "Content-Length" = some (Numeral.ofNat (Utf8.encode r.body).length) :=
  ⟨parse_toBytes (h.sendable hlength) rest, splitHead?_toBytes (h.sendable hlength) rest,
    h.header?_contentLength⟩

/-- A body that looks like the rest of a head and another response, and bytes behind it that are no
UTF-8. -/
theorem parse_toBytes_of_built_forged_head :
    parse ((plain "ñ: 1\r\n\r\nHTTP/1.1 500 No\r\n\r\n").toBytes ++ [0xFF, 0x0D, 0x0A])
      = .ok (plain "ñ: 1\r\n\r\nHTTP/1.1 500 No\r\n\r\n") :=
  (parse_toBytes_of_built (.plain "ñ: 1\r\n\r\nHTTP/1.1 500 No\r\n\r\n") (by decide +kernel)
    [0xFF, 0x0D, 0x0A]).1

end ReflectCalc.Response
