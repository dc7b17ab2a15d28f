import Mathlib
import ReflectCalc.Http.Request
import ReflectCalc.Proofs.Text.Utf8

/-!
# The head of a request and the bound on it

Where the head of a stream ends, and what becomes of a head that is longer than the bound.

* `Request.head` is the head: the request line, and the lines behind it up to the first empty one;
* `Request.readHeaders_of_complete`, `Request.ofLines_of_complete` — on complete lines the bound has
  no effect;
* `Request.read_of_bound_lt_head` is the main result. A bound that falls inside a line is an error,
  one that falls behind a line is not noticed.

The reader looks at the bound only when the last line it has taken lacks its end. So all depends on
that line: inside the head it is never the empty line that would end the reading before.
-/

namespace ReflectCalc.Request

variable {bound n : Nat} {atBound : Bool} {headers : Fields} {line stream more : Bytes}
  {lines : List Bytes} {t : Text}

/-! ### The head -/

/-- A line that is nothing but its end. -/
def EmptyLine (line : Bytes) : Prop := line = [0x0A] ∨ line = [0x0D, 0x0A]

instance (line : Bytes) : Decidable (EmptyLine line) := inferInstanceAs (Decidable (_ ∨ _))

/-- Lines up to the first empty one, which is the last of them. -/
def throughEmpty : List Bytes → List Bytes
  | [] => []
  | line :: lines => if EmptyLine line then [line] else line :: throughEmpty lines

/-- The head of a stream: the request line, and then the lines up to the first empty one, or all
lines if none is empty. -/
def head (stream : Bytes) : Bytes :=
  match Lines.split 0x0A stream with
  | [] => []
  | line :: lines => line ++ (throughEmpty lines).flatten

theorem isPrefix_throughEmpty (lines : List Bytes) : throughEmpty lines <+: lines := by
  induction lines with
  | nil => exact List.prefix_refl []
  | cons line lines ih =>
    rw [throughEmpty]
    split
    · exact List.prefix_append [line] lines
    · exact (List.prefix_cons_inj line).2 ih

/-- The head is the beginning of the stream. -/
theorem isPrefix_head (stream : Bytes) : head stream <+: stream := by
  unfold head
  split
  · exact List.nil_prefix
  · next line lines h =>
    have hstream : stream = line ++ lines.flatten := by
      rw [← Lines.flatten_split 0x0A stream, h, List.flatten_cons]
    obtain ⟨back, hback⟩ := isPrefix_throughEmpty lines
    rw [hstream, List.prefix_append_right_inj]
    exact ⟨back.flatten, by rw [← List.flatten_append, hback]⟩

/-- The line that ends a head. What follows it is left out. -/
theorem throughEmpty_append (hlines : ∀ line ∈ lines, ¬ EmptyLine line) (hline : EmptyLine line)
    (back : List Bytes) : throughEmpty (lines ++ line :: back) = lines ++ [line] := by
  induction lines with
  | nil => exact if_pos hline
  | cons first lines ih =>
    obtain ⟨hfirst, hlines⟩ := List.forall_mem_cons.1 hlines
    rw [List.cons_append, throughEmpty, if_neg hfirst, ih hlines, List.cons_append]

/-- An empty line comes off as one piece. -/
theorem split_emptyLine_append (h : EmptyLine line) (more : Bytes) :
    Lines.split 0x0A (line ++ more) = line :: Lines.split 0x0A more := by
  rcases h with rfl | rfl
  · rw [List.singleton_append, Lines.split, if_pos rfl]
  · exact Lines.split_append_cons (l := [0x0D]) (by decide)

/-! ### One line -/

/-- A line that reads is an encoded text, and complete if the stream was cut behind it. -/
theorem readLine_eq_ok (h : readLine bound atBound line = .ok t) :
    ∃ s, line = Utf8.encode s ∧ t = s.chomp ∧ (atBound = true → s.getLast? = some '\n') := by
  unfold readLine at h
  split at h
  · cases h
  · next s hs =>
    split at h
    · cases h
    · next hend =>
      cases h
      refine ⟨s, Utf8.decode?_eq_some_iff.1 hs, rfl, fun hbound => ?_⟩
      simpa [hbound] using hend

/-- A line without an end does not read if the stream was cut behind it. -/
theorem exists_readLine_eq_error (bound : Nat) (h : line.getLast? ≠ some 0x0A) :
    ∃ e, readLine bound true line = .error e := by
  cases hread : readLine bound true line with
  | error e => exact ⟨e, rfl⟩
  | ok t =>
    obtain ⟨s, rfl, -, hend⟩ := readLine_eq_ok hread
    obtain ⟨front, rfl⟩ := List.getLast?_eq_some_iff.1 (hend rfl)
    rw [Utf8.encode_append] at h
    exact absurd (List.getLast?_concat) h

/-- A complete line that reads as nothing is empty. -/
theorem emptyLine_of_readLine_eq_nil (h : readLine bound true line = .ok []) : EmptyLine line := by
  obtain ⟨s, rfl, hs, hend⟩ := readLine_eq_ok h
  have hend := hend rfl
  rcases Text.chomp_eq_nil_iff.1 hs.symm with rfl | rfl | rfl | rfl
  · cases hend
  · exact .inl rfl
  · cases hend
  · exact .inr rfl

/-- How a complete line reads does not depend on the bound. -/
theorem readLine_of_complete (bound' : Nat) (atBound' : Bool) (h : line.getLast? = some 0x0A) :
    readLine bound atBound line = readLine bound' atBound' line := by
  unfold readLine
  split
  · rfl
  · next s hs =>
    rw [Utf8.decode?_eq_some_iff] at hs
    subst hs
    have hend : s.getLast? = some '\n' := Utf8.getLast?_of_getLast?_encode (by decide) h
    rw [if_neg (by simp [hend]), if_neg (by simp [hend])]

/-! ### The bound -/

/-- A last line without an end does not read if the stream was cut behind it. -/
theorem exists_readHeaders_eq_error_of_not_mem (hline : 0x0A ∉ line) (hne : line ≠ []) :
    ∃ e, readHeaders bound true headers (Lines.split 0x0A line) = .error e := by
  obtain ⟨e, he⟩ := exists_readLine_eq_error bound
    fun h : line.getLast? = some 0x0A => hline (List.mem_of_getLast? h)
  rw [Lines.split_of_not_mem hline hne, readHeaders, he]
  exact ⟨e, rfl⟩

/-- A complete line that reads, and is not empty, is followed by the next one. -/
theorem exists_readHeaders_cons_eq_error (hline : ¬ EmptyLine line)
    (hlines : ∀ headers, ∃ e, readHeaders bound true headers lines = .error e) :
    ∃ e, readHeaders bound true headers (line :: lines) = .error e := by
  rw [readHeaders]
  cases hread : readLine bound true line with
  | error e => exact ⟨e, rfl⟩
  | ok t =>
    cases t with
    | nil => exact absurd (emptyLine_of_readLine_eq_nil hread) hline
    | cons c t =>
      simp only [bind, Except.bind]
      split
      · exact hlines _
      · exact hlines _

/-- **Headers that are cut inside a line do not read.** The reader gets past each line before the
cut, since only the last line of the head is empty, and refuses the line in which the cut is. -/
theorem exists_readHeaders_take_eq_error
    (h : n < (throughEmpty (Lines.split 0x0A stream)).flatten.length)
    (hne : stream.take n ≠ []) (hcut : (stream.take n).getLast? ≠ some 0x0A) :
    ∃ e, readHeaders bound true headers (Lines.split 0x0A (stream.take n)) = .error e := by
  induction stream using Lines.induction (0x0A : UInt8) generalizing n headers with
  | last l hl =>
    exact exists_readHeaders_eq_error_of_not_mem (fun h => hl (List.mem_of_mem_take h)) hne
  | line l r hl ih =>
    by_cases hn : n ≤ l.length
    · -- the cut is inside this line
      rw [List.take_append_of_le_length hn] at hne ⊢
      exact exists_readHeaders_eq_error_of_not_mem (fun h => hl (List.mem_of_mem_take h)) hne
    · obtain ⟨m, rfl⟩ : ∃ m, n = l.length + 1 + m := ⟨n - l.length - 1, by omega⟩
      rw [Lines.take_append_cons] at hcut ⊢
      rw [Lines.split_append_cons hl] at h ⊢
      rw [throughEmpty] at h
      split at h
      · -- the cut would be behind the head
        simp only [List.flatten_cons, List.flatten_nil, List.length_append, List.length_cons,
          List.length_nil] at h
        omega
      · next hempty =>
        have hm : m < (throughEmpty (Lines.split 0x0A r)).flatten.length := by
          simp only [List.flatten_cons, List.length_append, List.length_cons, List.length_nil] at h
          omega
        obtain ⟨hne', hcut'⟩ := Lines.of_getLast?_append_cons_ne hcut
        exact exists_readHeaders_cons_eq_error hempty fun headers => ih hm hne' hcut'

/-- Complete lines read in the same way under every bound. -/
theorem readHeaders_of_complete (bound' : Nat) (atBound' : Bool)
    (h : ∀ line ∈ lines, line.getLast? = some 0x0A) :
    readHeaders bound atBound headers lines = readHeaders bound' atBound' headers lines := by
  induction lines generalizing headers with
  | nil => rfl
  | cons line lines ih =>
    obtain ⟨hline, hlines⟩ := List.forall_mem_cons.1 h
    rw [readHeaders, readHeaders, readLine_of_complete bound' atBound' hline]
    simp only [ih hlines]

theorem ofLines_of_complete (bound' : Nat) (atBound' : Bool) (hne : lines ≠ [])
    (h : ∀ line ∈ lines, line.getLast? = some 0x0A) :
    ofLines bound atBound lines = ofLines bound' atBound' lines := by
  cases lines with
  | nil => exact absurd rfl hne
  | cons line lines =>
    obtain ⟨hline, hlines⟩ := List.forall_mem_cons.1 h
    unfold ofLines
    simp only [List.headD_cons, List.tail_cons]
    rw [readLine_of_complete bound' atBound' hline]
    simp only [readHeaders_of_complete bound' atBound' hlines]

theorem headD_split_of_not_mem (hline : 0x0A ∉ line) : (Lines.split 0x0A line).headD [] = line := by
  cases line with
  | nil => rfl
  | cons b bs => rw [Lines.split_of_not_mem hline (by simp)]; rfl

/-- A request line that does not read stands for the whole. -/
theorem exists_ofLines_eq_error_of_not_mem (hline : 0x0A ∉ line) :
    ∃ e, ofLines bound true (Lines.split 0x0A line) = .error e := by
  obtain ⟨e, he⟩ := exists_readLine_eq_error bound
    fun h : line.getLast? = some 0x0A => hline (List.mem_of_getLast? h)
  unfold ofLines
  rw [headD_split_of_not_mem hline, he]
  exact ⟨e, rfl⟩

theorem exists_ofLines_cons_eq_error
    (hlines : ∃ e, readHeaders bound true [] lines = .error e) :
    ∃ e, ofLines bound true (line :: lines) = .error e := by
  unfold ofLines
  simp only [List.headD_cons, List.tail_cons]
  cases readLine bound true line with
  | error e => exact ⟨e, rfl⟩
  | ok t =>
    cases t with
    | nil => exact ⟨_, rfl⟩
    | cons c t =>
      obtain ⟨e, he⟩ := hlines
      simp only [bind, Except.bind, he]
      exact ⟨e, rfl⟩

/-- **A head that is cut inside a line does not read.** -/
theorem exists_ofLines_take_eq_error (h : n < (head stream).length)
    (hcut : (stream.take n).getLast? ≠ some 0x0A) :
    ∃ e, ofLines bound true (Lines.split 0x0A (stream.take n)) = .error e := by
  by_cases hmem : 0x0A ∈ stream
  · obtain ⟨l, r, rfl, hl⟩ := List.eq_append_cons_of_mem hmem
    by_cases hn : n ≤ l.length
    · -- the cut is inside the request line
      rw [List.take_append_of_le_length hn]
      exact exists_ofLines_eq_error_of_not_mem fun h => hl (List.mem_of_mem_take h)
    · obtain ⟨m, rfl⟩ : ∃ m, n = l.length + 1 + m := ⟨n - l.length - 1, by omega⟩
      rw [Lines.take_append_cons] at hcut ⊢
      unfold head at h
      rw [Lines.split_append_cons hl] at h ⊢
      have hm : m < (throughEmpty (Lines.split 0x0A r)).flatten.length := by
        simp only [List.length_append, List.length_cons, List.length_nil] at h
        omega
      obtain ⟨hne', hcut'⟩ := Lines.of_getLast?_append_cons_ne hcut
      exact exists_ofLines_cons_eq_error (exists_readHeaders_take_eq_error hm hne' hcut')
  · exact exists_ofLines_eq_error_of_not_mem fun h => hmem (List.mem_of_mem_take h)

/-- **A head that does not fit the bound is refused, unless the bound falls behind a line end.**
There the reader takes the cut for the end of the stream: the request is that of the lines before
it, and the rest of the head is lost. -/
theorem read_of_bound_lt_head (h : bound < (head stream).length) :
    ((stream.take bound).getLast? ≠ some 0x0A → ∃ e, read bound stream = .error e) ∧
      ((stream.take bound).getLast? = some 0x0A →
        read bound stream = read (bound + 1) (stream.take bound)) := by
  have hlength : bound ≤ stream.length :=
    Nat.le_of_lt (Nat.lt_of_lt_of_le h (isPrefix_head stream).length_le)
  have hread : read bound stream = ofLines bound true (Lines.split 0x0A (stream.take bound)) := by
    unfold read
    rw [decide_eq_true hlength]
  constructor
  · intro hcut
    rw [hread]
    exact exists_ofLines_take_eq_error h hcut
  · intro hcut
    have hlines : ∀ line ∈ Lines.split 0x0A (stream.take bound), line.getLast? = some 0x0A := by
      obtain ⟨front, hfront⟩ := List.getLast?_eq_some_iff.1 hcut
      rw [hfront]
      exact fun line => Lines.getLast?_of_mem_split
    have hne : Lines.split 0x0A (stream.take bound) ≠ [] :=
      Lines.split_ne_nil fun h => by simp [h] at hcut
    have htake : (stream.take bound).take (bound + 1) = stream.take bound := by
      rw [List.take_take, Nat.min_eq_right (Nat.le_succ bound)]
    rw [hread]
    unfold read
    rw [htake]
    exact ofLines_of_complete _ _ hne hlines

/-- A head of 39 bytes that is cut inside its second line, and behind it. -/
theorem read_of_bound_lt_head_two_cuts :
    (∃ e, read 20 (Utf8.encode "GET /x HTTP/1.1\r\nHost: a\r\nCookie: b\r\n\r\n") = .error e) ∧
      read 26 (Utf8.encode "GET /x HTTP/1.1\r\nHost: a\r\nCookie: b\r\n\r\n")
        = read 27 (Utf8.encode "GET /x HTTP/1.1\r\nHost: a\r\n") := by
  have hinside := (@read_of_bound_lt_head 20
    (Utf8.encode "GET /x HTTP/1.1\r\nHost: a\r\nCookie: b\r\n\r\n") (by decide +kernel)).1
  have hbehind := (@read_of_bound_lt_head 26
    (Utf8.encode "GET /x HTTP/1.1\r\nHost: a\r\nCookie: b\r\n\r\n") (by decide +kernel)).2
  exact ⟨hinside (by decide +kernel), (hbehind (by decide +kernel)).trans (by rfl)⟩

/-- **A head that does not fit can be read in part.** The bound falls behind the second line, and
the request that is read lacks the header on the third. -/
theorem read_eq_ok_of_bound_lt_head :
    26 < (head (Utf8.encode "GET /x HTTP/1.1\r\nHost: a\r\nCookie: b\r\n\r\n")).length ∧
      read 26 (Utf8.encode "GET /x HTTP/1.1\r\nHost: a\r\nCookie: b\r\n\r\n")
        = .ok ⟨"GET", "/x", [], [("Host", "a")]⟩ :=
  ⟨by decide +kernel, by cbv⟩

end ReflectCalc.Request
