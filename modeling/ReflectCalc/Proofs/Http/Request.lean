import ReflectCalc.Proofs.Http.Head

/-!
# Reading the head of a request

A head of complete lines that fits the bound always reads, and what follows it has no effect. The
bytes are cut into lines first, so the lines are those of the text (`Request.split_encode_append`),
and each of them is decoded alone.

* `Request.collect` are the headers of complete lines, `Request.readHeaders_encode_append` says that
  the reader finds just these and never fails;
* `Request.readRequestLine_words` — the method and the target of a request line;
* `Request.read_encode_append` — the request of a whole head;
* `Request.head_encode_append` — the head of a stream that begins with one is just this one.
-/

namespace ReflectCalc.Request

variable {bound : Nat} {atBound : Bool} {t line front method target version w : Text}

/-! ### One line -/

/-- A complete line always reads, also one that ends at the bound. -/
theorem readLine_encode (h : t.getLast? = some '\n') :
    readLine bound atBound (Utf8.encode t) = .ok t.chomp := by
  unfold readLine
  rw [Utf8.decode?_encode]
  simp only [h]
  exact if_neg (by simp)

theorem readLine_emptyLine {blank : Bytes} (h : EmptyLine blank) :
    readLine bound atBound blank = .ok [] := by
  rcases h with rfl | rfl
  · exact readLine_encode (t := ['\n']) rfl
  · exact readLine_encode (t := ['\r', '\n']) rfl

theorem not_emptyLine_encode (h : t.chomp ≠ []) : ¬ EmptyLine (Utf8.encode t) := by
  rintro (ht | ht)
  · exact h (Utf8.encode_injective (t := ['\n']) ht ▸ rfl)
  · exact h (Utf8.encode_injective (t := ['\r', '\n']) ht ▸ rfl)

/-- Only empty words at the very end are dropped. -/
theorem dropTrailingEmpty_append_cons (hw : w ≠ []) (front back : List Text) :
    dropTrailingEmpty (front ++ w :: back) = front ++ w :: dropTrailingEmpty back := by
  unfold dropTrailingEmpty
  rw [List.reverse_append, List.reverse_cons, List.append_assoc, List.dropWhile_append]
  -- from the end, dropping gets past `back` only if all of it is empty, and then it meets `w`
  split
  · next h =>
    rw [List.isEmpty_iff.1 h]
    simp [hw]
  · simp

/-- **A request line names its method and its target.** What follows the target has no effect. -/
theorem readRequestLine_words (hmethod : ' ' ∉ method) (htarget : ' ' ∉ target)
    (hne : target ≠ []) :
    readRequestLine (method ++ ' ' :: (target ++ ' ' :: version)) = (method, target) := by
  have hwords : Text.splitAll ' ' (method ++ ' ' :: (target ++ ' ' :: version))
      = [method] ++ target :: Text.splitAll ' ' version := by
    rw [Text.splitAll_append hmethod, Text.splitAll_append htarget]
    rfl
  unfold readRequestLine
  rw [hwords, dropTrailingEmpty_append_cons hne]
  rfl

/-! ### All lines -/

/-- The lines of a head are those of its text. An empty line ends it, and what follows has lines of
its own. -/
theorem split_encode_append {blank : Bytes} (hline : '\n' ∉ line)
    (hfront : front = [] ∨ front.getLast? = some '\n') (hblank : EmptyLine blank) (more : Bytes) :
    Lines.split 0x0A (Utf8.encode (line ++ '\n' :: front) ++ (blank ++ more))
      = Utf8.encode (line ++ ['\n']) ::
        ((Lines.split '\n' front).map Utf8.encode ++ blank :: Lines.split 0x0A more) := by
  have hlines : (Utf8.encode (line ++ '\n' :: front)).getLast? = some 0x0A := by
    rcases hfront with rfl | hfront
    · rw [Utf8.encode_append]
      exact List.getLast?_concat
    · obtain ⟨back, rfl⟩ := List.getLast?_eq_some_iff.1 hfront
      rw [← List.cons_append, ← List.append_assoc, Utf8.encode_append]
      exact List.getLast?_concat
  rw [Lines.split_append_of_getLast? hlines, split_emptyLine_append hblank, Utf8.split_encode,
    Lines.split_append_cons hline, List.map_cons, List.cons_append]

/-- The headers on complete lines, up to a blank one. -/
def collect : Fields → List Text → Fields
  | headers, [] => headers
  | headers, line :: lines =>
    match line.chomp with
    | [] => headers
    | t =>
      match Fields.readLine? t with
      | some (name, value) => collect (headers.insert name value) lines
      | none => collect headers lines

/-- The headers on complete lines always read, up to an empty line. What follows it has no
effect. -/
theorem readHeaders_encode_append {headers : Fields} {lines : List Text} {blank : Bytes}
    (h : ∀ line ∈ lines, line.getLast? = some '\n') (hblank : EmptyLine blank)
    (more : List Bytes) :
    readHeaders bound atBound headers (lines.map Utf8.encode ++ blank :: more)
      = .ok (collect headers lines) := by
  induction lines generalizing headers with
  | nil => rw [List.map_nil, List.nil_append, readHeaders, readLine_emptyLine hblank]; rfl
  | cons line lines ih =>
    obtain ⟨hline, hlines⟩ := List.forall_mem_cons.1 h
    rw [List.map_cons, List.cons_append, readHeaders, readLine_encode hline, collect]
    simp only [bind, Except.bind]
    cases line.chomp with
    | nil => rfl
    | cons c t =>
      cases hfield : Fields.readLine? (c :: t) with
      | none => simpa only [hfield] using ih hlines
      | some field => simpa only [hfield] using ih hlines

/-- **A head that fits the bound reads as what its lines say**, whatever bytes follow it. -/
theorem read_encode_append {blank : Bytes} (hline : '\n' ∉ line)
    (hne : Text.chomp (line ++ ['\n']) ≠ []) (hfront : front = [] ∨ front.getLast? = some '\n')
    (hblank : EmptyLine blank)
    (hbound : (Utf8.encode (line ++ '\n' :: front) ++ blank).length ≤ bound) (more : Bytes) :
    read bound (Utf8.encode (line ++ '\n' :: front) ++ blank ++ more)
      = .ok (ofTarget (readRequestLine (Text.chomp (line ++ ['\n']))).1
          (readRequestLine (Text.chomp (line ++ ['\n']))).2
          (collect [] (Lines.split '\n' front))) := by
  have hcomplete : ∀ l ∈ Lines.split '\n' front, l.getLast? = some '\n' := by
    rcases hfront with rfl | hfront
    · exact fun l hl => absurd hl List.not_mem_nil
    · obtain ⟨back, rfl⟩ := List.getLast?_eq_some_iff.1 hfront
      exact fun l => Lines.getLast?_of_mem_split
  -- nothing of the head is cut off, and its lines are those of the text
  have htake : (Utf8.encode (line ++ '\n' :: front) ++ blank ++ more).take bound
      = Utf8.encode (line ++ '\n' :: front) ++ (blank ++ more.take (bound -
          (Utf8.encode (line ++ '\n' :: front) ++ blank).length)) := by
    rw [List.take_append, List.take_of_length_le hbound, List.append_assoc]
  unfold read ofLines
  rw [htake, split_encode_append hline hfront hblank]
  simp only [List.headD_cons, List.tail_cons]
  rw [readLine_encode List.getLast?_concat, readHeaders_encode_append hcomplete hblank]
  -- only an empty request line is refused
  cases hread : Text.chomp (line ++ ['\n']) with
  | nil => exact absurd hread hne
  | cons c t => rfl

/-! ### Lines that are not empty -/

/-- Lines that are not empty are all read, and those that name a header set it. -/
theorem collect_of_ne_nil {headers : Fields} {lines : List Text}
    (hne : ∀ line ∈ lines, line.chomp ≠ []) :
    collect headers lines
      = headers.insertAll ((lines.map Text.chomp).filterMap Fields.readLine?) := by
  induction lines generalizing headers with
  | nil => rfl
  | cons line lines ih =>
    obtain ⟨hline, hlines⟩ := List.forall_mem_cons.1 hne
    rw [List.map_cons, collect]
    cases hchomp : line.chomp with
    | nil => exact absurd hchomp hline
    | cons c t =>
      cases hfield : Fields.readLine? (c :: t) with
      | none =>
        rw [List.filterMap_cons_none hfield, ← ih hlines]
        simp only [hfield]
      | some field =>
        rw [List.filterMap_cons_some hfield, Fields.insertAll, List.foldl_cons]
        simp only [hfield]
        exact ih hlines

/-- Lines that end with carriage return and line feed. -/
theorem collect_crlf {headers : Fields} {ls : List Text} (hne : ∀ l ∈ ls, l ≠ []) :
    collect headers (ls.map fun l => l ++ ("\r\n" : Text)) =
      headers.insertAll (ls.filterMap Fields.readLine?) := by
  have hchomp : (ls.map fun l => l ++ ("\r\n" : Text)).map Text.chomp = ls := by
    rw [List.map_map]
    exact List.map_id'' (fun l => Text.chomp_crlf) ls
  rw [collect_of_ne_nil ?_, hchomp]
  intro line hline
  obtain ⟨l, hl, rfl⟩ := List.mem_map.1 hline
  rw [Text.chomp_crlf]
  exact hne l hl

/-- **The head ends with its empty line**, whatever bytes follow it. -/
theorem head_encode_append {blank : Bytes} (hline : '\n' ∉ line)
    (hfront : front = [] ∨ front.getLast? = some '\n')
    (hlines : ∀ l ∈ Lines.split '\n' front, Text.chomp l ≠ []) (hblank : EmptyLine blank)
    (more : Bytes) :
    head (Utf8.encode (line ++ '\n' :: front) ++ blank ++ more)
      = Utf8.encode (line ++ '\n' :: front) ++ blank := by
  have hnot : ∀ l ∈ (Lines.split '\n' front).map Utf8.encode, ¬ EmptyLine l := by
    intro l hl
    obtain ⟨s, hs, rfl⟩ := List.mem_map.1 hl
    exact not_emptyLine_encode (hlines s hs)
  have hparts : Utf8.encode (line ++ '\n' :: front)
      = Utf8.encode (line ++ ['\n']) ++ Utf8.encode front := by
    rw [← Utf8.encode_append, List.append_assoc, List.singleton_append]
  unfold head
  rw [List.append_assoc, split_encode_append hline hfront hblank]
  simp only
  rw [throughEmpty_append hnot hblank, List.flatten_append, ← Utf8.encode_flatten,
    Lines.flatten_split, List.flatten_singleton, hparts, List.append_assoc]

end ReflectCalc.Request
