import Mathlib.Data.List.Basic
import ReflectCalc.Http.Response
import ReflectCalc.Proofs.Text.Utf8

/-!
# The stages of reading a response

A response is read in stages: the bytes are cut at the first blank line, the head is taken apart
line by line, and the body is cut to the length that the head declares. What the others need to know
of these stages is said here once.

* `cutAt?_eq_none_iff`, `cutAt?_eq_some`, `cutAt?_append` — the search for a mark finds it if it is
  there, and bytes behind it change nothing;
* `cutAt?_of_not_infix`, `cutAt?_skip` — it finds the first one, and passes over bytes among which
  none can begin;
* `parse_eq_ok_iff` — a response is what came of each stage, and if it is none, one of them failed.
-/

namespace ReflectCalc.Response

variable {b : UInt8} {mark raw front back bs rest : Bytes} {r : Response}

/-! ### The search for a mark -/

theorem cutAt?_eq_some (h : cutAt? mark raw = some (front, back)) : raw = front ++ mark ++ back := by
  induction raw generalizing front with
  | nil =>
    obtain ⟨rfl, h⟩ := Option.ite_none_right_eq_some.1 h
    cases h
    rfl
  | cons b raw ih =>
    rw [cutAt?] at h
    split at h
    · next hmark =>
      cases h
      exact (List.prefix_iff_eq_append.1 (List.isPrefixOf_iff_prefix.1 hmark)).symm
    · obtain ⟨⟨front', back'⟩, hcut, heq⟩ := Option.map_eq_some_iff.1 h
      cases heq
      rw [ih hcut]
      rfl

/-- What is found is found wherever the bytes end. -/
theorem cutAt?_append (h : cutAt? mark raw = some (front, back)) (rest : Bytes) :
    cutAt? mark (raw ++ rest) = some (front, back ++ rest) := by
  induction raw generalizing front with
  | nil =>
    obtain ⟨rfl, h⟩ := Option.ite_none_right_eq_some.1 h
    cases h
    cases rest <;> rfl
  | cons b raw ih =>
    rw [cutAt?] at h
    rw [List.cons_append, cutAt?]
    split at h
    · next hmark =>
      have hbegins := List.isPrefixOf_iff_prefix.1 hmark
      have hlong : mark.isPrefixOf (b :: (raw ++ rest)) = true :=
        List.isPrefixOf_iff_prefix.2 (hbegins.trans (List.prefix_append (b :: raw) rest))
      cases h
      rw [if_pos hlong, ← List.cons_append, List.drop_append_of_le_length hbegins.length_le]
    · next hmark =>
      obtain ⟨⟨front', back'⟩, hcut, heq⟩ := Option.map_eq_some_iff.1 h
      cases heq
      -- the mark fits into what is left, so it does not begin here with the bytes behind either
      have hlength : mark.length ≤ (b :: raw).length := by
        rw [cutAt?_eq_some hcut]
        simp only [List.length_cons, List.length_append]
        omega
      have hnot : ¬ mark.isPrefixOf (b :: (raw ++ rest)) = true := fun hlong =>
        hmark (List.isPrefixOf_iff_prefix.2 (List.prefix_of_prefix_length_le
          (List.isPrefixOf_iff_prefix.1 hlong) (List.prefix_append (b :: raw) rest) hlength))
      rw [if_neg hnot, ih hcut]
      rfl

/-- A mark does not begin among bytes without its first one. -/
theorem cutAt?_skip (h : b ∉ bs) :
    cutAt? (b :: mark) (bs ++ rest)
      = (cutAt? (b :: mark) rest).map fun (front, back) => (bs ++ front, back) := by
  induction bs with
  | nil => cases hcut : cutAt? (b :: mark) rest <;> simp [hcut]
  | cons a bs ih =>
    have ha : b ≠ a := List.ne_of_not_mem_cons h
    have hnot : ¬ (b :: mark).isPrefixOf (a :: (bs ++ rest)) = true := by simp [ha]
    rw [List.cons_append, cutAt?, if_neg hnot, ih (List.not_mem_of_not_mem_cons h)]
    cases cutAt? (b :: mark) rest <;> rfl

/-- **A mark is found just if it is there.** -/
theorem cutAt?_eq_none_iff (hne : mark ≠ []) : cutAt? mark raw = none ↔ ¬ mark <:+: raw := by
  induction raw with
  | nil => simp [cutAt?, hne]
  | cons b raw ih =>
    rw [cutAt?, List.infix_cons_iff, not_or, ← ih, ← List.isPrefixOf_iff_prefix]
    split
    · next hmark => simp [hmark]
    · next hmark => simp [hmark]

/-- **The first occurrence is found.** None begins before it if there is none in the bytes up to the
last but one of the mark. -/
theorem cutAt?_of_not_infix (hne : mark ≠ []) (h : ¬ mark <:+: front ++ mark.dropLast)
    (back : Bytes) : cutAt? mark (front ++ mark ++ back) = some (front, back) := by
  suffices hfirst : cutAt? mark (front ++ mark) = some (front, []) from cutAt?_append hfirst back
  cases hcut : cutAt? mark (front ++ mark) with
  | none => exact absurd (List.suffix_append front mark).isInfix ((cutAt?_eq_none_iff hne).1 hcut)
  | some parts =>
    obtain ⟨front', back'⟩ := parts
    have hparts := cutAt?_eq_some hcut
    rcases List.eq_nil_or_concat back' with rfl | ⟨back', b, rfl⟩
    · rw [List.append_nil] at hparts
      rw [List.append_cancel_right hparts]
    · -- the mark that is found would end before the last byte
      have hshort := congrArg List.dropLast hparts
      rw [List.dropLast_append_of_ne_nil hne, List.concat_eq_append, ← List.append_assoc,
        List.dropLast_concat] at hshort
      exact absurd ⟨front', back', hshort.symm⟩ h

/-! ### The whole -/

/-- **A response is what came of the stages of reading it.** -/
theorem parse_eq_ok_iff : parse raw = .ok r ↔
    ∃ head back, splitHead? raw = some (Utf8.encode head, back) ∧
      readStatusLine? (head.lines.headD []) = some (r.status, r.reason) ∧
      head.lines.tail.filterMap Fields.readLine? = r.headers ∧
      cutBody r.headers back = Utf8.encode r.body := by
  constructor
  · intro h
    unfold parse at h
    split at h
    · next bytes back hsplit =>
      split at h
      · next head hhead =>
        simp only at h
        split at h
        · next status reason hline =>
          split at h
          · next body hbody =>
            cases h
            exact ⟨head, back, by rw [hsplit, Utf8.decode?_eq_some_iff.1 hhead], hline, rfl,
              Utf8.decode?_eq_some_iff.1 hbody⟩
          · cases h
        · cases h
      · cases h
    · cases h
  · rintro ⟨head, back, hsplit, hline, hheaders, hbody⟩
    unfold parse
    simp only [hsplit, Utf8.decode?_encode, hline, hheaders, hbody]
    rfl

/-- What is refused is what is no response. -/
theorem exists_parse_eq_error_iff : (∃ e, parse raw = .error e) ↔ ∀ r, parse raw ≠ .ok r := by
  cases parse raw <;> simp

end ReflectCalc.Response
