import ReflectCalc.Proofs.Http.Request

/-!
# Streams that fit the bound

A stream fits the bound if the reader comes to an end within it: at an empty line that ends there,
or at the end of a stream that is shorter. Such a stream reads in one way under every greater bound,
and what stands behind the empty line has no effect.

Three things can end the reading, and the bound is only one of them. The proof puts the other two
into one form. Reading without a bound is `readLine 0 false` and the functions above it, since a
stream that has not been cut is never looked at for the bound. Then

* `readLine_of_whole` — a line that is complete, or was not cut, reads as it does without a bound;
* `readHeaders_append`, `ofLines_append` — so do lines that hold an empty one, or are all there are,
  and then nothing else is read;
* `read_append_of_endsEmpty`, `read_of_length_lt` — a stream that fits reads as the part of it that
  counts reads without a bound.

The right sides of the last two do not speak of the bound, so every bound that a stream fits finds
the same lines (`exists_lines_of_fits`). The main result, `read_of_fits`, follows from this.
-/

namespace ReflectCalc.Request

variable {bound bound' : Nat} {atBound : Bool} {headers : Fields} {line front stream : Bytes}
  {lines back : List Bytes} {e : RequestError}

/-! ### Streams that fit -/

/-- Complete lines, the last of which is empty. -/
def EndsEmpty (front : Bytes) : Prop :=
  ∃ lines line, EmptyLine line ∧ (lines = [] ∨ lines.getLast? = some 0x0A) ∧ front = lines ++ line

/-- The reader comes to an end within the bound: an empty line ends among the first `bound` bytes,
or the stream is shorter than that. -/
def Fits (bound : Nat) (stream : Bytes) : Prop :=
  (∃ front more, stream = front ++ more ∧ EndsEmpty front ∧ front.length ≤ bound) ∨
    stream.length < bound

theorem EmptyLine.getLast? (h : EmptyLine line) : line.getLast? = some 0x0A := by
  rcases h with rfl | rfl <;> rfl

theorem EndsEmpty.getLast? (h : EndsEmpty front) : front.getLast? = some 0x0A := by
  obtain ⟨lines, line, hline, -, rfl⟩ := h
  rw [List.getLast?_append, hline.getLast?, Option.some_or]

/-- The empty line is one of the lines. -/
theorem EndsEmpty.exists_emptyLine (h : EndsEmpty front) :
    ∃ line ∈ Lines.split 0x0A front, EmptyLine line := by
  obtain ⟨lines, line, hline, hlines, rfl⟩ := h
  refine ⟨line, ?_, hline⟩
  have hsplit : Lines.split 0x0A line = [line] := by
    have h := split_emptyLine_append hline []
    rwa [List.append_nil] at h
  rcases hlines with rfl | hlines
  · rw [List.nil_append, hsplit]
    exact List.mem_singleton_self line
  · rw [Lines.split_append_of_getLast? hlines, hsplit]
    exact List.mem_append_right _ (List.mem_singleton_self line)

/-! ### Lines within the bound -/

/-- A line that is complete, or was not cut, reads as it does without a bound. -/
theorem readLine_of_whole (h : atBound = true → line.getLast? = some 0x0A) :
    readLine bound atBound line = readLine 0 false line := by
  cases atBound with
  | true => exact readLine_of_complete 0 false (h rfl)
  | false => rfl

/-- Behind a line with a text on it, the empty line is still to come. -/
theorem exists_emptyLine_of_readLine {c : Char} {t : Text}
    (hread : readLine 0 false line = .ok (c :: t)) (h : ∃ l ∈ line :: lines, EmptyLine l) :
    ∃ l ∈ lines, EmptyLine l := by
  obtain ⟨l, hl, hempty⟩ := h
  rcases List.mem_cons.1 hl with rfl | hl
  · rw [readLine_emptyLine hempty] at hread
    cases hread
  · exact ⟨l, hl, hempty⟩

/-- **What follows an empty line is not read**, and the lines up to it read as they do without a
bound. If there is no empty line, this holds of all the lines. -/
theorem readHeaders_append (hlines : ∀ line ∈ lines, atBound = true → line.getLast? = some 0x0A)
    (hback : (∃ line ∈ lines, EmptyLine line) ∨ back = []) :
    readHeaders bound atBound headers (lines ++ back) = readHeaders 0 false headers lines := by
  induction lines generalizing headers with
  | nil =>
    rcases hback with ⟨line, hline, -⟩ | rfl
    · exact absurd hline List.not_mem_nil
    · rfl
  | cons line lines ih =>
    obtain ⟨hline, hlines⟩ := List.forall_mem_cons.1 hlines
    rw [List.cons_append, readHeaders, readHeaders, readLine_of_whole hline]
    cases hread : readLine 0 false line with
    | error e => rfl
    | ok t =>
      cases t with
      | nil => rfl
      | cons c t =>
        have hback' := hback.imp_left (exists_emptyLine_of_readLine hread)
        simp only [bind, Except.bind]
        split
        · exact ih hlines hback'
        · exact ih hlines hback'

/-- The same with the request line in front. It is not one of the headers, so an empty request line
ends the reading as well. -/
theorem ofLines_append (hlines : ∀ line ∈ lines, atBound = true → line.getLast? = some 0x0A)
    (hne : lines = [] → atBound = false ∧ back = [])
    (hback : (∃ line ∈ lines, EmptyLine line) ∨ back = []) :
    ofLines bound atBound (lines ++ back) = ofLines 0 false lines := by
  cases lines with
  | nil =>
    obtain ⟨rfl, rfl⟩ := hne rfl
    rfl
  | cons line lines =>
    obtain ⟨hline, hlines⟩ := List.forall_mem_cons.1 hlines
    unfold ofLines
    rw [List.cons_append, List.headD_cons, List.headD_cons, List.tail_cons, List.tail_cons,
      readLine_of_whole hline]
    cases hread : readLine 0 false line with
    | error e => rfl
    | ok t =>
      cases t with
      | nil => rfl
      | cons c t =>
        have hback' := hback.imp_left (exists_emptyLine_of_readLine hread)
        simp only [bind, Except.bind]
        rw [readHeaders_append hlines hback']

/-! ### Streams within the bound -/

/-- A stream whose empty line ends within the bound reads as its lines up to there. -/
theorem read_append_of_endsEmpty (h : EndsEmpty front) (hbound : front.length ≤ bound)
    (more : Bytes) :
    read bound (front ++ more) = ofLines 0 false (Lines.split 0x0A front) := by
  have hne : Lines.split 0x0A front ≠ [] := by
    obtain ⟨line, hline, -⟩ := h.exists_emptyLine
    exact List.ne_nil_of_mem hline
  have hlines : ∀ line ∈ Lines.split 0x0A front, line.getLast? = some 0x0A := by
    obtain ⟨bs, hbs⟩ := List.getLast?_eq_some_iff.1 h.getLast?
    rw [hbs]
    intro line
    exact Lines.getLast?_of_mem_split
  unfold read
  rw [List.take_append, List.take_of_length_le hbound, Lines.split_append_of_getLast? h.getLast?]
  exact ofLines_append (fun line hline _ => hlines line hline) (fun hnil => absurd hnil hne)
    (.inl h.exists_emptyLine)

/-- A stream that is shorter than the bound reads as all of its lines. -/
theorem read_of_length_lt (h : stream.length < bound) :
    read bound stream = ofLines 0 false (Lines.split 0x0A stream) := by
  have hcut : decide (bound ≤ stream.length) = false := decide_eq_false (Nat.not_le.2 h)
  unfold read
  rw [hcut, List.take_of_length_le (Nat.le_of_lt h), ← List.append_nil (Lines.split 0x0A stream)]
  rw [ofLines_append (fun _ _ hfalse => absurd hfalse Bool.false_ne_true) (fun _ => ⟨rfl, rfl⟩)
    (.inr rfl), List.append_nil]

/-! ### Errors -/

theorem exists_flaw_of_readLine (h : readLine 0 false line = .error e) :
    ∃ flaw, e = .notUtf8 flaw := by
  unfold readLine at h
  split at h
  · cases h
    exact ⟨_, rfl⟩
  · -- a line that was not cut is complete
    rw [if_neg fun hcut => absurd hcut.1 Bool.false_ne_true] at h
    cases h

theorem exists_flaw_of_readHeaders (h : readHeaders 0 false headers lines = .error e) :
    ∃ flaw, e = .notUtf8 flaw := by
  induction lines generalizing headers with
  | nil => cases h
  | cons line lines ih =>
    rw [readHeaders] at h
    cases hread : readLine 0 false line with
    | error e' =>
      rw [hread] at h
      cases h
      exact exists_flaw_of_readLine hread
    | ok t =>
      rw [hread] at h
      cases t with
      | nil => cases h
      | cons c t =>
        simp only [bind, Except.bind] at h
        split at h
        · exact ih h
        · exact ih h

/-- Without a bound only an empty request line and bytes that are no UTF-8 are refused. -/
theorem eq_empty_or_exists_flaw (h : ofLines 0 false lines = .error e) :
    e = .empty ∨ ∃ flaw, e = .notUtf8 flaw := by
  unfold ofLines at h
  cases hread : readLine 0 false (lines.headD []) with
  | error e' =>
    rw [hread] at h
    cases h
    exact .inr (exists_flaw_of_readLine hread)
  | ok t =>
    rw [hread] at h
    cases t with
    | nil =>
      cases h
      exact .inl rfl
    | cons c t =>
      simp only [bind, Except.bind] at h
      split at h
      · next hheaders =>
        cases h
        exact .inr (exists_flaw_of_readHeaders hheaders)
      · cases h

/-! ### The whole -/

/-- Every bound that a stream fits finds the same lines, and reads them without a bound. -/
theorem exists_lines_of_fits (h : Fits bound stream) :
    ∃ lines, ∀ bound', bound ≤ bound' → read bound' stream = ofLines 0 false lines := by
  rcases h with ⟨front, more, rfl, hempty, hbound⟩ | hbound
  · refine ⟨Lines.split 0x0A front, ?_⟩
    intro bound' hle
    exact read_append_of_endsEmpty hempty (Nat.le_trans hbound hle) more
  · refine ⟨Lines.split 0x0A stream, ?_⟩
    intro bound' hle
    exact read_of_length_lt (Nat.lt_of_lt_of_le hbound hle)

/-- If an empty line ends anywhere in a stream that fits, then one ends within the bound, and not
behind it. -/
theorem exists_front_of_fits {more : Bytes} (h : Fits bound (front ++ more))
    (hempty : EndsEmpty front) :
    ∃ first between, front = first ++ between ∧ EndsEmpty first ∧ first.length ≤ bound := by
  by_cases hlength : front.length ≤ bound
  · exact ⟨front, [], (List.append_nil front).symm, hempty, hlength⟩
  · -- the stream is not shorter than the bound, so it is another empty line that makes it fit
    rcases h with ⟨first, rest, hstream, hfirst, hbound⟩ | hshort
    · have hstart : first <+: front ++ more := by
        rw [hstream]
        exact List.prefix_append first rest
      have hprefix : first <+: front :=
        List.prefix_of_prefix_length_le hstart (List.prefix_append front more) (by omega)
      obtain ⟨between, rfl⟩ := hprefix
      exact ⟨first, between, rfl, hfirst, hbound⟩
    · rw [List.length_append] at hshort
      omega

/-- **The bound has no effect on a stream that fits it.** Under every greater bound comes of it the
same request or the same error, and the error is never that of the bound. The bytes behind an empty
line have no effect either, whatever takes their place. -/
theorem read_of_fits (h : Fits bound stream) :
    (∀ bound', bound ≤ bound' → read bound' stream = read bound stream) ∧
      (∀ e, read bound stream = .error e → e = .empty ∨ ∃ flaw, e = .notUtf8 flaw) ∧
      ∀ front more more', stream = front ++ more → EndsEmpty front →
        read bound (front ++ more') = read bound stream := by
  obtain ⟨lines, hread⟩ := exists_lines_of_fits h
  refine ⟨?_, ?_, ?_⟩
  · intro bound' hle
    rw [hread bound' hle, hread bound (Nat.le_refl bound)]
  · intro e he
    rw [hread bound (Nat.le_refl bound)] at he
    exact eq_empty_or_exists_flaw he
  · intro front more more' hstream hempty
    rw [hstream] at h ⊢
    obtain ⟨first, between, rfl, hfirst, hbound⟩ := exists_front_of_fits h hempty
    rw [List.append_assoc, List.append_assoc, read_append_of_endsEmpty hfirst hbound,
      read_append_of_endsEmpty hfirst hbound]

/-- A head that fits exactly, with bytes behind it that would be refused as a line of it. -/
theorem read_of_fits_exactly :
    Fits 28 (Utf8.encode "GET /x HTTP/1.1\r\nHost: a\r\n\r\n" ++ [0xFF, 0x0A]) ∧
      read 4096 (Utf8.encode "GET /x HTTP/1.1\r\nHost: a\r\n\r\n" ++ [0xFF, 0x0A])
        = .ok ⟨"GET", "/x", [], [("Host", "a")]⟩ := by
  have hfits : Fits 28 (Utf8.encode "GET /x HTTP/1.1\r\nHost: a\r\n\r\n" ++ [0xFF, 0x0A]) :=
    .inl ⟨_, _, rfl, ⟨Utf8.encode "GET /x HTTP/1.1\r\nHost: a\r\n", [0x0D, 0x0A], by decide,
      by decide, by decide⟩, by decide⟩
  refine ⟨hfits, ?_⟩
  rw [(read_of_fits hfits).1 4096 (by decide)]
  cbv

end ReflectCalc.Request
