import ReflectCalc.Proofs.Http.Response

/-!
# Replies that are cut short

A connection can break before all of a response has come. The reader refuses what it has got if the
head is not complete or a character of the body is not. If neither is so, it takes the part of the
body that has come for the whole: the declared length only ever shortens a body.

* `Response.Made` are the responses that can be built from parts that keep to their lines, and
  `Response.received` is one with another body, as a reader sees it;
* `Response.splitHead?_of_cut_head` — a head without its end has no blank line in it, of either kind;
* `Response.parse_of_cut_eq_ok_iff` is the main result: what is cut off is read just if the cut is
  behind the head and between two characters.
-/

namespace ReflectCalc.Response

variable {r r' : Response} {p : Bytes} {body : Text}

/-- The responses that can be built from a reason and a content type that keep to their lines. -/
inductive Made : Response → Prop where
  | mk (status : UInt16) {reason contentType : Text} (body : Text) (hreason : '\n' ∉ reason)
      (htype : '\n' ∉ contentType) : Made (make status reason contentType body)

theorem Built.made (h : Built r) : r.Made := by
  -- all builders but the first fix the texts that have to keep to their lines
  cases h with
  | make status body hreason _ htype => exact .mk status body hreason htype
  | json body => exact .mk 200 body (by decide) (by decide)
  | plain body => exact .mk 200 body (by decide) (by decide)
  | html body => exact .mk 200 body (by decide) (by decide)
  | notFound message => exact .mk 404 _ (by decide) (by decide)
  | badRequest message => exact .mk 400 _ (by decide) (by decide)
  | serverError message => exact .mk 500 _ (by decide) (by decide)

/-- What a reader takes for the response when it has got this body. White space around a value is
not a part of it. -/
def received (r : Response) (body : Text) : Response where
  status := r.status
  reason := r.reason
  headers := r.headers.map fun field => (field.1, field.2.trim)
  body := body

/-- The names of the headers that every response of this program has. -/
def headerNames : List Text :=
  ["Content-Type", "Content-Length", "Connection", "Access-Control-Allow-Origin"]

theorem headerNames_spec :
    ∀ name ∈ headerNames, (name ≠ [] ∧ Text.Trimmed name ∧ ':' ∉ name) ∧ '\n' ∉ name := by
  decide

namespace Made

theorem fst_mem_headerNames (h : r.Made) {field : Text × Text} (hfield : field ∈ r.headers) :
    field.1 ∈ headerNames := by
  have hnames : r.headers.map Prod.fst = headerNames := by
    cases h
    rfl
  exact hnames ▸ List.mem_map_of_mem hfield

theorem headLines_spec (h : r.Made) : ∀ l ∈ r.headLines, '\n' ∉ l ∧ l ≠ [] := by
  have hparts : '\n' ∉ r.reason ∧ ∀ field ∈ r.headers, '\n' ∉ field.2 := by
    cases h with
    | mk status body hreason htype =>
      have hnumeral : '\n' ∉ Numeral.ofNat (Utf8.encode body).length :=
        Numeral.not_mem_ofNat (by decide)
      refine ⟨hreason, ?_⟩
      simp only [make, List.forall_mem_cons]
      exact ⟨htype, hnumeral, by decide, by decide, by simp⟩
  exact Response.headLines_spec hparts.1 fun field hfield =>
    ⟨(headerNames_spec _ (h.fst_mem_headerNames hfield)).2, hparts.2 field hfield⟩

/-- The headers come back from their lines. -/
theorem filterMap_fieldText (h : r.Made) :
    (r.headers.map fieldText).filterMap Fields.readLine?
      = r.headers.map fun field => (field.1, field.2.trim) :=
  filterMap_fieldText_of_named fun _ hfield =>
    (headerNames_spec _ (h.fst_mem_headerNames hfield)).1

/-- No body but a longer one is cut to the declared length. -/
theorem cutBody_of_length_le (h : r.Made) {bs : Bytes}
    (hlength : bs.length ≤ (Utf8.encode r.body).length) :
    cutBody (r.headers.map fun field => (field.1, field.2.trim)) bs = bs := by
  have hdeclared : declaredLength? (r.headers.map fun field => (field.1, field.2.trim))
      = Numeral.readUnsigned? 64 (Text.trim (Numeral.ofNat (Utf8.encode r.body).length)) := by
    cases h
    rfl
  unfold cutBody
  rw [hdeclared, Text.trim_of_trimmed Numeral.trimmed_ofNat, Numeral.readUnsigned?_ofNat_eq]
  -- a length beyond 64 bits is none
  by_cases hbits : (Utf8.encode r.body).length < twoTo 64
  · rw [if_pos hbits]
    exact List.take_of_length_le hlength
  · rw [if_neg hbits]

end Made

/-! ### A cut inside the head -/

/-- The head, as lines that all end in one way. -/
theorem head_eq_flatMap (r : Response) :
    r.head = (r.headLines ++ [[]]).flatMap (· ++ LineEnd.crlf.text) := by
  have hlines (fields : Fields) :
      fields.flatMap headerLine = (fields.map fieldText).flatMap (· ++ LineEnd.crlf.text) := by
    rw [List.flatMap_map]
    rfl
  unfold head headLines
  rw [hlines]
  simp [LineEnd.text]

/-- **A head without its end has no blank line in it.** -/
theorem splitHead?_of_cut_head (h : r.Made) (hp : p <+: Utf8.encode r.head)
    (hne : p ≠ Utf8.encode r.head) : splitHead? p = none := by
  obtain ⟨rest, hrest⟩ := hp
  have hrest' : rest ≠ [] := by
    rintro rfl
    exact hne (by rw [← hrest, List.append_nil])
  -- the only blank line with carriage returns is the one at the very end
  have hcrlf : cutAt? blankLine p = none := by
    have hend := @cutAt?_lines r.headLines [] h.headLines_spec (by simp [headLines])
    have hhead : Utf8.encode r.head
        = Utf8.encode (Text.join "\r\n" r.headLines) ++ (blankLine ++ []) := by
      rw [head_eq, Utf8.encode_append]
      rfl
    cases hcut : cutAt? blankLine p with
    | none => rfl
    | some parts =>
      have hwhole := cutAt?_append hcut rest
      rw [hrest, hhead, hend] at hwhole
      have hback := (Prod.mk.inj (Option.some.inj hwhole)).2
      exact absurd (List.append_eq_nil_iff.1 hback.symm).2 hrest'
  -- and every line feed has a carriage return before it
  have hlf : cutAt? [0x0A, 0x0A] p = none := by
    rw [cutAt?_eq_none_iff (by simp)]
    intro hinfix
    have hhead : Utf8.encode ['\n', '\n'] <:+: Utf8.encode r.head :=
      hinfix.trans (hrest ▸ List.prefix_append p rest).isInfix
    rw [Utf8.encode_infix_iff (by decide), head_eq_flatMap] at hhead
    refine LineEnd.not_infix_flatMap_text ?_ ?_ hhead
    · simp only [List.mem_append, List.mem_singleton]
      rintro l (hl | rfl)
      · exact (h.headLines_spec l hl).1
      · exact List.not_mem_nil
    · intro l _ hl
      have hlength := congrArg List.length hl
      simp [LineEnd.text] at hlength
  rw [splitHead?_of_cutAt?_eq_none hcrlf, hlf]

/-! ### A cut behind the head -/

/-- The head is found when all of it has come. -/
theorem splitHead?_head_append (h : r.Made) (bs : Bytes) :
    splitHead? (Utf8.encode r.head ++ bs)
      = some (Utf8.encode (Text.join "\r\n" r.headLines), bs) := by
  rw [head_eq, Utf8.encode_append, List.append_assoc]
  exact splitHead?_lines h.headLines_spec (by simp [headLines]) bs

/-- A whole head with not more than the body behind it is read just if that is a text. -/
theorem parse_head_append_eq_ok_iff (h : r.Made) {bs : Bytes}
    (hlength : bs.length ≤ (Utf8.encode r.body).length) :
    parse (Utf8.encode r.head ++ bs) = .ok r' ↔
      ∃ body, bs = Utf8.encode body ∧ r' = r.received body := by
  rw [parse_eq_ok_iff]
  constructor
  · rintro ⟨head, back, hsplit, hline, hheaders, hbody⟩
    rw [splitHead?_head_append h] at hsplit
    obtain ⟨hhead, rfl⟩ := Prod.mk.inj (Option.some.inj hsplit)
    rw [← Utf8.encode_injective hhead, Text.lines_join h.headLines_spec] at hline hheaders
    simp only [headLines, List.headD_cons, List.tail_cons, readStatusLine?_statusLine,
      h.filterMap_fieldText] at hline hheaders
    obtain ⟨hstatus, hreason⟩ := Prod.mk.inj (Option.some.inj hline)
    have hcut : cutBody r'.headers bs = bs := by
      rw [← hheaders]
      exact h.cutBody_of_length_le hlength
    refine ⟨r'.body, by rw [← hbody, hcut], ?_⟩
    cases r'
    simp only [received] at *
    rw [hstatus, hreason, hheaders]
  · rintro ⟨body, rfl, rfl⟩
    refine ⟨_, _, splitHead?_head_append h _, ?_⟩
    rw [Text.lines_join h.headLines_spec]
    exact ⟨readStatusLine?_statusLine r, h.filterMap_fieldText, h.cutBody_of_length_le hlength⟩

/-- **A response of which a part is missing is read just if all of the head has come and the cut is
between two characters**, and then what has come of the body is taken for the whole. -/
theorem parse_of_cut_eq_ok_iff (h : r.Made) (hp : p <+: r.toBytes) (hne : p ≠ r.toBytes) :
    parse p = .ok r' ↔ ∃ body, p = Utf8.encode (r.head ++ body) ∧ r' = r.received body := by
  have hwhole : r.toBytes = Utf8.encode r.head ++ Utf8.encode r.body := Utf8.encode_append _ _
  rw [hwhole] at hp hne
  rcases List.prefix_or_prefix_of_prefix hp (List.prefix_append _ (Utf8.encode r.body)) with
    hcut | ⟨bs, rfl⟩
  · by_cases hhead : p = Utf8.encode r.head
    · -- all of the head, and nothing of the body
      have hread := @parse_head_append_eq_ok_iff r r' h [] (Nat.zero_le _)
      rw [List.append_nil] at hread
      rw [hhead, hread]
      simp only [Utf8.encode_append, List.self_eq_append_right, eq_comm]
    · -- not even all of the head
      refine iff_of_false (fun hok => ?_) ?_
      · obtain ⟨head, back, hsplit, -⟩ := parse_eq_ok_iff.1 hok
        rw [splitHead?_of_cut_head h hcut hhead] at hsplit
        cases hsplit
      · rintro ⟨body, rfl, -⟩
        rw [Utf8.encode_append] at hcut hhead
        exact hhead (hcut.eq_of_length_le (by simp))
  · have hbs : bs <+: Utf8.encode r.body := (List.prefix_append_right_inj _).1 hp
    rw [parse_head_append_eq_ok_iff h hbs.length_le]
    simp only [Utf8.encode_append, List.append_cancel_left_eq]

end ReflectCalc.Response
