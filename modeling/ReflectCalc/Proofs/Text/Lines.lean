import ReflectCalc.Proofs.Text.Pieces
import ReflectCalc.Text.Lines

/-!
# Cutting texts into lines

`Lines.split` keeps the end of each line, so cutting can be followed line by line from the front
(`Lines.induction`).

* `Lines.split_append_cons` — a line without `stop` inside, and its `stop`, come off as one piece,
  and so do all lines that were put together (`Lines.split_flatten`);
* `Lines.getLast?_of_mem_split` — if the whole ends with `stop`, so does each piece;
* `LineEnd` are the two ways to end a line, which `Text.chomp_append_text` takes off again, and
  `LineEnd.not_infix_flatMap_text` says when no line among some is empty;
* `Text.lines_join_text` — lines that were joined by line ends of one kind come back.
-/

namespace ReflectCalc

namespace Lines

variable {α : Type} [DecidableEq α] {stop : α} {l r : List α}

/-- Every sequence is a last line without an end, or a line with its end and what follows it. -/
@[elab_as_elim]
theorem induction {motive : List α → Prop} (stop : α) (last : ∀ l, stop ∉ l → motive l)
    (line : ∀ l r, stop ∉ l → motive r → motive (l ++ stop :: r)) (l : List α) : motive l := by
  induction hn : l.length using Nat.strongRecOn generalizing l with
  | ind n ih =>
    by_cases h : stop ∈ l
    · obtain ⟨front, back, rfl, hfront⟩ := List.eq_append_cons_of_mem h
      refine line front back hfront (ih back.length ?_ back rfl)
      simp only [List.length_append, List.length_cons] at hn
      omega
    · exact last l h

/-- Nothing is lost. -/
theorem flatten_split (stop : α) (l : List α) : (split stop l).flatten = l := by
  induction l with
  | nil => rfl
  | cons a l ih =>
    rw [split]
    split
    · rw [List.flatten_cons, ih]
      rfl
    · cases hl : split stop l with
      | nil => rw [hl] at ih; rw [← ih]; rfl
      | cons first rest => rw [hl] at ih; rw [← ih]; rfl

theorem split_ne_nil (hne : l ≠ []) : split stop l ≠ [] := by
  cases l with
  | nil => exact absurd rfl hne
  | cons a l =>
    rw [split]
    split
    · simp
    · cases split stop l <;> simp

/-- A first piece that holds no `stop` is put before the first piece of the rest. -/
theorem split_append_of_not_mem (h : stop ∉ l) (hne : l ≠ []) :
    split stop (l ++ r) = (l ++ (split stop r).headD []) :: (split stop r).tail := by
  induction l with
  | nil => exact absurd rfl hne
  | cons a l ih =>
    have ha : a ≠ stop := (List.ne_of_not_mem_cons h).symm
    have hl : stop ∉ l := List.not_mem_of_not_mem_cons h
    rw [List.cons_append, split, if_neg ha]
    -- the last character before the rest goes in front of the first piece of the rest
    cases l with
    | nil => cases hr : split stop r <;> simp [hr]
    | cons b l => rw [ih hl (by simp)]; simp

theorem split_of_not_mem (h : stop ∉ l) (hne : l ≠ []) : split stop l = [l] := by
  have hsplit := split_append_of_not_mem (r := []) h hne
  simpa [split] using hsplit

/-- **A line comes off with its end.** -/
theorem split_append_cons (h : stop ∉ l) :
    split stop (l ++ stop :: r) = (l ++ [stop]) :: split stop r := by
  have hstop : split stop (stop :: r) = [stop] :: split stop r := by rw [split, if_pos rfl]
  -- an empty line has no piece of its own to be put before the rest
  by_cases hne : l = []
  · rw [hne, List.nil_append, List.nil_append, hstop]
  · rw [split_append_of_not_mem h hne, hstop]
    rfl

/-- A piece holds no `stop` before its end. -/
theorem of_mem_split {line : List α} (h : line ∈ split stop l) :
    ∃ front, stop ∉ front ∧ (line = front ∨ line = front ++ [stop]) := by
  induction l using Lines.induction stop with
  | last l hl =>
    cases l with
    | nil => exact absurd h List.not_mem_nil
    | cons a l =>
      rw [split_of_not_mem hl (List.cons_ne_nil a l), List.mem_singleton] at h
      exact ⟨a :: l, hl, .inl h⟩
  | line l r hl ih =>
    rw [split_append_cons hl] at h
    rcases List.mem_cons.1 h with rfl | h
    · exact ⟨l, hl, .inr rfl⟩
    · exact ih h

/-- Each piece of a sequence that ends with `stop` ends with it. -/
theorem getLast?_of_mem_split {line : List α} (h : line ∈ split stop (l ++ [stop])) :
    line.getLast? = some stop := by
  induction l generalizing line with
  | nil =>
    simp only [List.nil_append, split, if_true, List.mem_singleton] at h
    rw [h]
    rfl
  | cons a l ih =>
    rw [List.cons_append, split] at h
    split at h
    · rcases List.mem_cons.1 h with rfl | h
      · next ha => rw [ha]; rfl
      · exact ih h
    · cases hl : split stop (l ++ [stop]) with
      | nil => exact absurd hl (split_ne_nil (by simp))
      | cons first rest =>
        -- `a` is put before the first piece, which is not empty and keeps its end
        rw [hl] at h ih
        rcases List.mem_cons.1 h with rfl | h
        · rw [List.getLast?_cons, ih List.mem_cons_self]
          rfl
        · exact ih (List.mem_cons_of_mem first h)

omit [DecidableEq α] in
/-- Taking more than a line takes the line with its end. -/
theorem take_append_cons (n : Nat) :
    (l ++ stop :: r).take (l.length + 1 + n) = l ++ stop :: r.take n := by
  have hl : (l ++ [stop]).length = l.length + 1 := by simp
  rw [← List.singleton_append, ← List.append_assoc, ← hl, List.take_length_add_append,
    List.append_assoc, List.singleton_append]

omit [DecidableEq α] in
/-- What follows a complete line goes on, unless the whole is complete. -/
theorem of_getLast?_append_cons_ne (h : (l ++ stop :: r).getLast? ≠ some stop) :
    r ≠ [] ∧ r.getLast? ≠ some stop := by
  rw [List.getLast?_append, List.getLast?_cons] at h
  constructor
  · rintro rfl
    exact h rfl
  · intro hr
    rw [hr] at h
    exact h rfl

/-- What ends with `stop` is cut on its own. -/
theorem split_append_of_getLast? (h : l.getLast? = some stop) :
    split stop (l ++ r) = split stop l ++ split stop r := by
  induction l using Lines.induction stop with
  | last l hl => exact absurd (List.mem_of_getLast? h) hl
  | line l back hl ih =>
    rw [List.append_assoc, List.cons_append, split_append_cons hl, split_append_cons hl]
    cases back with
    | nil => rfl
    | cons a back =>
      rw [List.getLast?_append, List.getLast?_cons_cons] at h
      have hback : (a :: back).getLast? = some stop := by
        rwa [List.getLast?_cons, Option.some_or, ← List.getLast?_cons] at h
      rw [ih hback, List.cons_append]

/-- **Complete lines that were put together come off one by one.** -/
theorem split_flatten {ls : List (List α)} (h : ∀ line ∈ ls, ∃ l, stop ∉ l ∧ line = l ++ [stop]) :
    split stop ls.flatten = ls := by
  induction ls with
  | nil => rfl
  | cons line ls ih =>
    obtain ⟨⟨l, hl, rfl⟩, hls⟩ := List.forall_mem_cons.1 h
    rw [List.flatten_cons, List.append_assoc, List.singleton_append, split_append_cons hl, ih hls]

/-- A line of a text that ends with carriage return and line feed. -/
theorem split_append_crlf {l r : Text} (h : '\n' ∉ l) :
    split '\n' (l ++ "\r\n" ++ r) = (l ++ "\r\n") :: split '\n' r := by
  have hl : '\n' ∉ l ++ ['\r'] := by simpa using h
  have hparts : l ++ ("\r\n" : Text) ++ r = (l ++ ['\r']) ++ '\n' :: r := by simp
  rw [hparts, split_append_cons hl]
  simp

theorem getLast?_flatMap_crlf {ls : List Text} (hne : ls ≠ []) :
    (ls.flatMap fun l => l ++ ("\r\n" : Text)).getLast? = some '\n' := by
  rcases List.eq_nil_or_concat ls with rfl | ⟨front, l, rfl⟩
  · exact absurd rfl hne
  · rw [List.concat_eq_append, List.flatMap_append, List.flatMap_singleton, List.getLast?_append,
      List.getLast?_append]
    rfl

end Lines

/-- A way to end a line. -/
inductive LineEnd where
  /-- A line feed. -/
  | lf
  /-- A carriage return and a line feed. -/
  | crlf
deriving DecidableEq, Repr

namespace LineEnd

/-- The characters that end the line. -/
def text : LineEnd → Text
  | lf => "\n"
  | crlf => "\r\n"

/-- In either way the first line feed stands at the very end. -/
theorem exists_append_text {l : Text} (h : '\n' ∉ l) (e : LineEnd) :
    ∃ l', '\n' ∉ l' ∧ l ++ e.text = l' ++ ['\n'] := by
  cases e with
  | lf => exact ⟨l, h, rfl⟩
  | crlf => exact ⟨l ++ ['\r'], by simpa using h, by simp [text]⟩

/-- A line comes off with its end, in either way. -/
theorem split_append_text {l r : Text} (h : '\n' ∉ l) (e : LineEnd) :
    Lines.split '\n' (l ++ e.text ++ r) = (l ++ e.text) :: Lines.split '\n' r := by
  cases e with
  | lf =>
    rw [List.append_assoc]
    exact Lines.split_append_cons h
  | crlf => exact Lines.split_append_crlf h

/-- Lines that all end in one way come off one by one. -/
theorem split_flatMap_text {ls : List Text} (h : ∀ l ∈ ls, '\n' ∉ l) (e : LineEnd) :
    Lines.split '\n' (ls.flatMap (· ++ e.text)) = ls.map (· ++ e.text) := by
  refine Lines.split_flatten fun line hline => ?_
  obtain ⟨l, hl, rfl⟩ := List.mem_map.1 hline
  exact exists_append_text (h l hl) e

/-- Lines that all end in one way hold no two line feeds in a row, unless one of them is nothing but
a line feed. -/
theorem not_infix_flatMap_text {ls : List Text} (h : ∀ l ∈ ls, '\n' ∉ l) {e : LineEnd}
    (hne : ∀ l ∈ ls, l ++ e.text ≠ ['\n']) : ¬ ['\n', '\n'] <:+: ls.flatMap (· ++ e.text) := by
  rintro ⟨front, back, hinfix⟩
  -- the second of the two would be a line of its own
  have hsplit : Lines.split '\n' (ls.flatMap (· ++ e.text))
      = Lines.split '\n' (front ++ ['\n']) ++ ['\n'] :: Lines.split '\n' back := by
    have hparts : front ++ ['\n', '\n'] ++ back = (front ++ ['\n']) ++ ([] ++ '\n' :: back) := by
      simp
    rw [← hinfix, hparts, Lines.split_append_of_getLast? List.getLast?_concat,
      Lines.split_append_cons List.not_mem_nil, List.nil_append]
  have hmem : ['\n'] ∈ ls.map (· ++ e.text) := by
    rw [← split_flatMap_text h, hsplit]
    exact List.mem_append_right _ List.mem_cons_self
  obtain ⟨l, hl, hline⟩ := List.mem_map.1 hmem
  exact hne l hl hline

end LineEnd

namespace Text

variable {c : Char} {l r s t : Text} {ls : List Text}

/-! ### Line ends -/

theorem stripEnd?_concat : stripEnd? c (t ++ [c]) = some t := by
  induction t with
  | nil => simp [stripEnd?]
  | cons a t ih =>
    cases t with
    | nil => simp [stripEnd?]
    | cons b t =>
      rw [List.cons_append, List.cons_append, stripEnd?, ← List.cons_append, ih]
      rfl

theorem stripEnd?_of_not_mem (h : c ∉ t) : stripEnd? c t = none := by
  induction t with
  | nil => rfl
  | cons a t ih =>
    have ha : a ≠ c := (List.ne_of_not_mem_cons h).symm
    have ht : c ∉ t := List.not_mem_of_not_mem_cons h
    cases t with
    | nil => rw [stripEnd?, if_neg ha]
    | cons b t => rw [stripEnd?, ih ht]; rfl

theorem chomp_crlf : chomp (l ++ "\r\n") = l := by
  have h : l ++ ("\r\n" : Text) = (l ++ ['\r']) ++ ['\n'] := by simp
  unfold chomp
  rw [h]
  simp only [stripEnd?_concat, Option.getD_some]

theorem withoutLineFeed_crlf : withoutLineFeed (l ++ "\r\n") = l := by
  have h : l ++ ("\r\n" : Text) = (l ++ ['\r']) ++ ['\n'] := by simp
  unfold withoutLineFeed
  rw [h]
  simp only [stripEnd?_concat, Option.getD_some]

theorem stripEnd?_eq_some_iff : stripEnd? c t = some s ↔ t = s ++ [c] := by
  constructor
  · intro h
    induction t generalizing s with
    | nil => cases h
    | cons a t ih =>
      cases t with
      | nil =>
        rw [stripEnd?] at h
        split at h
        · next ha => cases h; rw [ha]; rfl
        · cases h
      | cons b t =>
        rw [stripEnd?] at h
        obtain ⟨s', hs', rfl⟩ := Option.map_eq_some_iff.1 h
        rw [ih hs']
        rfl
  · rintro rfl
    exact stripEnd?_concat

/-- The two texts that become `s` when `c` is taken off their end, if it is there. -/
theorem getD_stripEnd?_eq_iff (hs : c ∉ s) :
    (stripEnd? c t).getD t = s ↔ t = s ∨ t = s ++ [c] := by
  cases h : stripEnd? c t with
  | none =>
    have hne : t ≠ s ++ [c] := by
      rintro rfl
      rw [stripEnd?_concat] at h
      cases h
    simp [hne]
  | some s' =>
    rw [stripEnd?_eq_some_iff] at h
    subst h
    have hne : s' ++ [c] ≠ s := fun e => hs (by simp [← e])
    simp [hne]

/-- The lines that are empty up to their end. -/
theorem chomp_eq_nil_iff : chomp t = [] ↔ t = [] ∨ t = ['\n'] ∨ t = ['\r'] ∨ t = ['\r', '\n'] := by
  unfold chomp
  simp only
  rw [getD_stripEnd?_eq_iff (by simp), getD_stripEnd?_eq_iff (by simp),
    getD_stripEnd?_eq_iff (by decide), or_assoc]
  rfl

/-- Without a carriage return of its own, a line comes back from either end. -/
theorem chomp_append_text (h : '\r' ∉ l) (e : LineEnd) : chomp (l ++ e.text) = l := by
  cases e with
  | crlf => exact chomp_crlf
  | lf =>
    change ((stripEnd? '\r' ((stripEnd? '\n' (l ++ ['\n'])).getD (l ++ ['\n']))).getD
      ((stripEnd? '\n' (l ++ ['\n'])).getD (l ++ ['\n']))) = l
    rw [stripEnd?_concat, Option.getD_some, stripEnd?_of_not_mem h, Option.getD_none]

/-! ### Lines of a text -/

theorem withoutLineFeed_append_text {e : LineEnd} (h : e = .lf → '\r' ∉ l) :
    withoutLineFeed (l ++ e.text) = l := by
  cases e with
  | crlf => exact withoutLineFeed_crlf
  | lf =>
    change withoutLineFeed (l ++ ['\n']) = l
    unfold withoutLineFeed
    rw [stripEnd?_concat]
    simp only [stripEnd?_of_not_mem (h rfl), Option.getD_none]

/-- No line of a text holds a line feed. -/
theorem not_mem_of_mem_lines (h : l ∈ lines t) : '\n' ∉ l := by
  obtain ⟨line, hline, rfl⟩ := List.mem_map.1 h
  obtain ⟨front, hfront, rfl | rfl⟩ := Lines.of_mem_split hline
  · -- the last line, which has no end to be taken off
    unfold withoutLineFeed
    rw [stripEnd?_of_not_mem hfront]
    exact hfront
  · unfold withoutLineFeed
    rw [stripEnd?_concat]
    -- without its line feed the line is left as it is, or loses a carriage return as well
    show '\n' ∉ (stripEnd? '\r' front).getD front
    cases hstrip : stripEnd? '\r' front with
    | none => exact hfront
    | some s =>
      rw [stripEnd?_eq_some_iff] at hstrip
      intro hmem
      apply hfront
      rw [hstrip]
      exact List.mem_append_left _ hmem

/-- A line comes off without its end. -/
theorem lines_append_text {e : LineEnd} (h : '\n' ∉ l) (hcr : e = .lf → '\r' ∉ l) :
    lines (l ++ e.text ++ r) = l :: lines r := by
  unfold lines
  rw [LineEnd.split_append_text h, List.map_cons, withoutLineFeed_append_text hcr]

/-- Lines that all end in one way come off one by one, in front of anything. -/
theorem lines_flatMap_text_append {e : LineEnd} (hls : ∀ l ∈ ls, '\n' ∉ l)
    (hcr : e = .lf → ∀ l ∈ ls, '\r' ∉ l) (r : Text) :
    lines (ls.flatMap (· ++ e.text) ++ r) = ls ++ lines r := by
  induction ls with
  | nil => rfl
  | cons l ls ih =>
    obtain ⟨hl, hls'⟩ := List.forall_mem_cons.1 hls
    rw [List.flatMap_cons, List.append_assoc,
      lines_append_text hl fun he => hcr he l List.mem_cons_self,
      ih hls' fun he => (List.forall_mem_cons.1 (hcr he)).2, List.cons_append]

/-- Lines with an end each are lines with ends between them and one more behind the last. -/
theorem flatMap_append_eq_join (hne : ls ≠ []) (sep : Text) :
    ls.flatMap (· ++ sep) = join sep ls ++ sep := by
  induction ls with
  | nil => exact absurd rfl hne
  | cons l ls ih =>
    cases ls with
    | nil => simp [join]
    | cons l' ls =>
      have hjoin : join sep (l :: l' :: ls) = l ++ sep ++ join sep (l' :: ls) := rfl
      rw [List.flatMap_cons, ih (List.cons_ne_nil l' ls), hjoin, List.append_assoc _ _ sep]

/-- **Lines that were joined by line ends of one kind come back.** A line feed alone does not keep
a carriage return that stands before it on the line. -/
theorem lines_join_text {e : LineEnd} (hls : ∀ l ∈ ls, '\n' ∉ l ∧ l ≠ [])
    (hcr : e = .lf → ∀ l ∈ ls, '\r' ∉ l) : lines (join e.text ls) = ls := by
  induction ls with
  | nil => rfl
  | cons l ls ih =>
    obtain ⟨⟨hl, hne⟩, hls'⟩ := List.forall_mem_cons.1 hls
    cases ls with
    | nil =>
      -- the last line stands without an end
      unfold lines
      rw [join, Lines.split_of_not_mem hl hne, List.map_singleton, withoutLineFeed,
        stripEnd?_of_not_mem hl]
    | cons l' ls =>
      have hrest : lines (join e.text (l' :: ls)) = l' :: ls :=
        ih hls' fun he => (List.forall_mem_cons.1 (hcr he)).2
      rw [join, lines_append_text hl fun he => hcr he l List.mem_cons_self, hrest]
      exact List.cons_ne_nil l' ls

/-- Lines that were joined by carriage return and line feed come back. -/
theorem lines_join (hls : ∀ l ∈ ls, '\n' ∉ l ∧ l ≠ []) : lines (join "\r\n" ls) = ls :=
  lines_join_text (e := .crlf) hls fun he => LineEnd.noConfusion he

end Text

end ReflectCalc
