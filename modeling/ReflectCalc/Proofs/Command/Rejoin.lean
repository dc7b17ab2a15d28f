import ReflectCalc.Proofs.Command.Rendering

/-!
# Splitting, joining and splitting again

The arguments of a command are cut out of a text with quoted spans and trimmed afterwards. Joined by
bare commas they are not the text that they came from, so a second scan reads other characters than
the first one did. `Command.parse_rejoin` says that it comes to the same arguments nevertheless, but
for a last one that is empty.

* `Arguments.Separated` is what the scan knows of the pieces it has cut: each comma that is left
  is quoted, and a piece with another one behind it is closed. All pieces are `Separated`
  (`separated_cut`), and so are the arguments (`separated_split`);
* white space is read without a trace on the open span, so that trimming keeps both properties
  (`Separated.map_trim`);
* trimmed and separated arguments are cut at just the commas that join them, by
  `Arguments.cut_join_padded`.

What trimming could have broken is the meaning of a backslash, since a quote mark behind one is no
mark. But the character behind a piece is a comma, and the comma itself resets the scan.
-/

namespace ReflectCalc

namespace Padded

/-- A trimmed text with nothing around it. -/
def bare (t : Text) (h : t.Trimmed) : Padded where
  before := []
  body := t
  after := []
  trimmed := h

/-- Every text is a trimmed one with white space around it. -/
theorem exists_text_eq (t : Text) : ∃ p : Padded, p.text = t ∧ p.body = t.trim := by
  obtain ⟨v, w, hv, ht, hw, heq⟩ := Text.exists_eq_trim_between t
  exact ⟨⟨v, t.trim, w, hv, ht, hw⟩, heq.symm, rfl⟩

/-- Trimmed texts are padded ones that are written as they are. -/
theorem exists_map_text_eq {args : List Text} (h : ∀ a ∈ args, a.Trimmed) :
    ∃ ps : List Padded, ps.map text = args ∧ ps.map body = args := by
  induction args with
  | nil => exact ⟨[], rfl, rfl⟩
  | cons a args ih =>
    obtain ⟨ha, hargs⟩ := List.forall_mem_cons.1 h
    obtain ⟨ps, htext, hbody⟩ := ih hargs
    refine ⟨bare a ha :: ps, ?_, ?_⟩
    · rw [List.map_cons, htext]
      simp [bare, text]
    · rw [List.map_cons, hbody]
      rfl

end Padded

namespace Arguments

variable {s : Scan} {t u : Text} {pieces : List Text}

/-! ### Quoted commas and closed spans without the white space -/

theorem CommasQuotedFrom.of_append_left (h : CommasQuotedFrom s (t ++ u)) :
    CommasQuotedFrom s t := by
  rintro l r rfl
  exact h l (r ++ u) (by simp)

theorem CommasQuotedFrom.of_append_right (h : CommasQuotedFrom s (t ++ u)) :
    CommasQuotedFrom (s.run t) u := by
  rintro l r rfl
  rw [← Scan.run_append]
  exact h (t ++ l) r (by simp)

/-- Trimming a piece leaves its commas quoted. -/
theorem CommasQuoted.trim (h : CommasQuoted t) : CommasQuoted t.trim := by
  obtain ⟨p, rfl, hbody⟩ := Padded.exists_text_eq t
  have hinner := (CommasQuotedFrom.of_append_left h).of_append_right
  rw [Scan.run_start_blank p.blank_before] at hinner
  exact hbody ▸ hinner

/-- Trimming a piece leaves it closed. -/
theorem Closed.trim (h : Closed t) : Closed t.trim := by
  obtain ⟨p, rfl, hbody⟩ := Padded.exists_text_eq t
  unfold Closed Padded.text at h
  rw [Scan.run_append, Scan.run_append, Scan.run_start_blank p.blank_before,
    Scan.run_blank_quote p.blank_after] at h
  exact hbody ▸ h

/-! ### What the scan knows of its pieces -/

/-- Each comma in a piece is quoted, and each piece but the last is closed. -/
structure Separated (pieces : List Text) : Prop where
  commasQuoted : ∀ a ∈ pieces, CommasQuoted a
  closed : ∀ a ∈ pieces.dropLast, Closed a

theorem Separated.dropLast (h : Separated pieces) : Separated pieces.dropLast where
  commasQuoted := fun a ha => h.commasQuoted a (List.dropLast_subset pieces ha)
  closed := fun a ha => h.closed a (List.dropLast_subset pieces.dropLast ha)

theorem Separated.map_trim (h : Separated pieces) : Separated (pieces.map Text.trim) where
  commasQuoted := List.forall_mem_map.2 fun a ha => (h.commasQuoted a ha).trim
  closed := by
    rw [← List.map_dropLast]
    exact List.forall_mem_map.2 fun a ha => (h.closed a ha).trim

theorem Separated.cons {a : Text} (ha : CommasQuoted a) (hclosed : pieces ≠ [] → Closed a)
    (h : Separated pieces) : Separated (a :: pieces) := by
  refine ⟨List.forall_mem_cons.2 ⟨ha, h.commasQuoted⟩, ?_⟩
  intro x hx
  cases pieces with
  | nil => cases hx
  | cons b rest =>
    rcases List.mem_cons.1 hx with rfl | hx
    · exact hclosed (List.cons_ne_nil b rest)
    · exact h.closed x hx

/-- The pieces that a scan cuts from `s` on: the first one is read from `s`, and all others from the
beginning. -/
theorem exists_cut_eq (s : Scan) (t : Text) : ∃ a rest, cut s t = a :: rest ∧
    CommasQuotedFrom s a ∧ (rest ≠ [] → (s.run a).quote = none) ∧ Separated rest := by
  induction t generalizing s with
  | nil =>
    refine ⟨[], [], rfl, .of_not_mem List.not_mem_nil, fun h => absurd rfl h, ?_, ?_⟩
    · intro a ha
      cases ha
    · intro a ha
      cases ha
  | cons c t ih =>
    rw [cut]
    split
    · next hsep =>
      -- a comma that separates closes the piece in front of it, and the scan starts anew
      have hcomma : c = ',' ∧ s.quote = none := by simpa [Scan.separates] using hsep
      obtain ⟨rfl, hs⟩ := hcomma
      obtain ⟨a, rest, hcut, ha, hclosed, hrest⟩ := ih Scan.start
      rw [Scan.step_comma hs, hcut]
      exact ⟨[], a :: rest, rfl, .of_not_mem List.not_mem_nil, fun _ => hs, hrest.cons ha hclosed⟩
    · next hsep =>
      -- any other character belongs to the first piece
      obtain ⟨a, rest, hcut, ha, hclosed, hrest⟩ := ih (s.step c)
      refine ⟨c :: a, rest, by rw [hcut]; rfl, ?_, hclosed, hrest⟩
      exact commasQuotedFrom_cons.2 ⟨Bool.eq_false_iff.2 hsep, ha⟩

theorem separated_cut (t : Text) : Separated (cut Scan.start t) := by
  obtain ⟨a, rest, hcut, ha, hclosed, hrest⟩ := exists_cut_eq Scan.start t
  rw [hcut]
  exact hrest.cons ha hclosed

theorem separated_split (t : Text) : Separated (split t) := by
  have h := (separated_cut t).map_trim
  unfold split dropEmptyLast
  split
  · exact h.dropLast
  · exact h

theorem trimmed_of_mem_split {a : Text} (h : a ∈ split t) : a.Trimmed := by
  have hmem : a ∈ (cut Scan.start t).map Text.trim := by
    unfold split dropEmptyLast at h
    split at h
    · exact List.dropLast_subset _ h
    · exact h
  obtain ⟨b, -, rfl⟩ := List.mem_map.1 hmem
  exact Text.trimmed_trim b

/-! ### Cutting joined arguments -/

/-- Trimmed and separated arguments are cut at the commas that join them, and nowhere else. -/
theorem cut_join {args : List Text} (hne : args ≠ []) (htrimmed : ∀ a ∈ args, a.Trimmed)
    (h : Separated args) : cut Scan.start (Text.join "," args) = args := by
  obtain ⟨ps, htext, hbody⟩ := Padded.exists_map_text_eq htrimmed
  have hps : ps ≠ [] := by
    rintro rfl
    exact hne htext.symm
  have hcommas : ∀ p ∈ ps, CommasQuoted p.body :=
    fun p hp => h.commasQuoted p.body (hbody ▸ List.mem_map_of_mem hp)
  have hclosed : ∀ p ∈ ps.dropLast, Closed p.body := by
    intro p hp
    refine h.closed p.body ?_
    rw [← hbody, ← List.map_dropLast]
    exact List.mem_map_of_mem hp
  have hcut := cut_join_padded hps hcommas hclosed
  rwa [htext] at hcut

/-- **Splitting, joining and splitting again.** A last argument that is empty does not come back,
since nothing stands behind the comma in front of it. -/
theorem split_join_split (t : Text) :
    split (Text.join "," (split t)) = dropEmptyLast (split t) := by
  by_cases hne : split t = []
  · rw [hne]
    rfl
  · have htrimmed : ∀ a ∈ split t, a.Trimmed := fun a ha => trimmed_of_mem_split ha
    have htrim : (split t).map Text.trim = split t := by
      refine (List.map_congr_left fun a ha => ?_).trans (List.map_id _)
      exact Text.trim_of_trimmed (htrimmed a ha)
    have hcut := cut_join hne htrimmed (separated_split t)
    unfold split at hcut htrim ⊢
    rw [hcut, htrim]

end Arguments

namespace Command

variable {front inside behind raw : Text} {c : Command}

/-- The first opening parenthesis ends the name of the operation, and the last closing one the
arguments. -/
theorem parse_enclosed (hfront : '(' ∉ front) (hbehind : ')' ∉ behind) :
    parse (front ++ '(' :: (inside ++ ')' :: behind)) =
      .ok ⟨front.trim, Arguments.split inside⟩ := by
  have hopen : Text.isBlank '(' = false := by decide
  have hclose : Text.isBlank ')' = false := by decide
  have htrim : Text.trim (front ++ '(' :: (inside ++ ')' :: behind)) =
      front.trimStart ++ '(' :: (inside ++ ')' :: behind.trimEnd) := by
    unfold Text.trim
    rw [Text.trimStart_append_cons hopen, ← List.cons_append, ← List.append_assoc,
      Text.trimEnd_append_cons hclose]
    simp
  have hfront' : '(' ∉ front.trimStart := fun h => hfront (Text.subset_trimStart h)
  have hbehind' : ')' ∉ behind.trimEnd := fun h => hbehind (Text.subset_trimEnd h)
  unfold parse
  rw [htrim, if_neg (by simp)]
  simp only [parenthesised?, Text.splitOnce_append hfront', Text.splitLast_append hbehind',
    Option.bind_eq_bind, Option.bind_some, Option.pure_def, Text.trim_trimStart]

/-- A command that is read has a trimmed operation without an opening parenthesis, and its arguments
were split off a text. -/
theorem of_parse_eq_ok (h : parse raw = .ok c) :
    c.operation.Trimmed ∧ '(' ∉ c.operation ∧ ∃ inside, c.arguments = Arguments.split inside := by
  unfold parse at h
  split at h
  · cases h
  · split at h
    · next front inside hparens =>
      obtain rfl := Except.ok.inj h
      obtain ⟨⟨front', rest⟩, honce, hlast⟩ := Option.bind_eq_some_iff.1 hparens
      obtain ⟨⟨inside', behind⟩, -, hpair⟩ := Option.bind_eq_some_iff.1 hlast
      obtain ⟨rfl, rfl⟩ := Prod.mk.inj (Option.some.inj hpair)
      obtain ⟨hopen, -⟩ := Text.splitOnce_eq_some_iff.1 honce
      refine ⟨Text.trimmed_trim front', fun hmem => hopen ?_, inside', rfl⟩
      exact Text.subset_trimStart (Text.subset_trimEnd hmem)
    · cases h

/-- A command is written as it was read, and read again. -/
theorem parse_text_of_parse (h : parse raw = .ok c) :
    parse c.text = .ok ⟨c.operation, Arguments.dropEmptyLast c.arguments⟩ := by
  obtain ⟨htrimmed, hopen, inside, hargs⟩ := of_parse_eq_ok h
  have hshape : c.text = c.operation ++ '(' :: (Text.join "," c.arguments ++ ')' :: []) := by
    simp [text]
  rw [hshape, parse_enclosed hopen List.not_mem_nil, Text.trim_of_trimmed htrimmed, hargs,
    Arguments.split_join_split]

/-- **Arguments that are joined by commas are split as before.** Only a last one that is empty is
lost. So a command that has been read is read again from its own text, with the same operation and,
up to that, the same arguments. -/
theorem parse_rejoin :
    (∀ t : Text,
      (Arguments.split t = [] ∨ (Arguments.split t).getLast? ≠ some [] →
        Arguments.split (Text.join "," (Arguments.split t)) = Arguments.split t) ∧
      ((Arguments.split t).getLast? = some [] →
        Arguments.split (Text.join "," (Arguments.split t)) = (Arguments.split t).dropLast)) ∧
    ∀ (raw : Text) (c : Command), parse raw = .ok c →
      (c.arguments = [] ∨ c.arguments.getLast? ≠ some [] → parse c.text = .ok c) ∧
      (c.arguments.getLast? = some [] →
        parse c.text = .ok ⟨c.operation, c.arguments.dropLast⟩) := by
  have hkeep (args : List Text) (h : args = [] ∨ args.getLast? ≠ some []) :
      Arguments.dropEmptyLast args = args := by
    refine if_neg ?_
    rcases h with rfl | h
    · exact fun h => nomatch h
    · exact h
  constructor
  · intro t
    rw [Arguments.split_join_split]
    exact ⟨hkeep _, fun h => if_pos h⟩
  · intro raw c h
    rw [parse_text_of_parse h]
    refine ⟨fun hlast => ?_, fun hlast => ?_⟩
    · rw [hkeep _ hlast]
    · rw [Arguments.dropEmptyLast, if_pos hlast]

/-- A command with a backslash in front of white space, an escaped quote mark and an open span comes
back. An empty last argument does not. -/
theorem parse_rejoin_backslash :
    (parse " op(a\\ , (b,, 'c \\') , d)!" = .ok ⟨"op", ["a\\", "(b", "", "'c \\') , d"]⟩ ∧
      parse "op(a\\,(b,,'c \\') , d)" = .ok ⟨"op", ["a\\", "(b", "", "'c \\') , d"]⟩) ∧
    Arguments.split " x ,," = (["x", ""] : List Text) ∧
      Arguments.split "x," = (["x"] : List Text) := by
  have hread : parse " op(a\\ , (b,, 'c \\') , d)!" =
      .ok ⟨"op", ["a\\", "(b", "", "'c \\') , d"]⟩ := rfl
  have hsplit : Arguments.split " x ,," = (["x", ""] : List Text) := rfl
  refine ⟨⟨hread, ?_⟩, hsplit, ?_⟩
  · exact (parse_rejoin.2 _ _ hread).1 (.inr (by decide))
  · have h := (parse_rejoin.1 " x ,,").2 (by rw [hsplit]; rfl)
    rw [hsplit] at h
    exact h

end Command

end ReflectCalc
