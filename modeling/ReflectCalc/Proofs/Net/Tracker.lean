import ReflectCalc.Net.Tracker
import ReflectCalc.Proofs.Net.Counting

/-!
# What a tracker counts

A tracker shares its counter with its clones, and guards add to it and take from it in any order.
Still the counter says how many connections are open: those that the tracker or a clone of it has
opened and whose guard has not been dropped.

* `Tracking.origin` and `Tracking.Holds` read off a history which trackers are clones of one another
  and which connections of a tracker are open;
* `Tracking.countedBy?` is the counter on which a guard is, recovered from the guards themselves;
* `Tracking.tracking_run` is the main result, for every history of a process.

The invariant is `Tracking.Balanced`: each counter says how many held guards are on it, as far as 64
bits can. A step keeps it, whatever the tracker (`Tracking.Balanced.step`), and so does a history.
The counter of a guard stays the same until it is dropped (`Tracking.countedBy?_run`), which ties the
guards to the history (`Tracking.holds_iff`).
-/

namespace ReflectCalc

/-- The counter that a guard is on, if it is held. -/
def Guard.countedBy? (g : Guard) : Option Nat := if g.held then some g.counter else none

@[simp] theorem Guard.countedBy?_held (counter id : Nat) :
    Guard.countedBy? ⟨counter, id, true⟩ = some counter := rfl

@[simp] theorem Guard.countedBy?_dropped (counter id : Nat) :
    Guard.countedBy? ⟨counter, id, false⟩ = none := rfl

namespace Tracking

variable {t : Tracking} {i j c tracker source n : Nat} {s : Step} {steps before after : List Step}

/-! ### Histories -/

/-- The tracker of which each one is a clone, when a step has been made. -/
def originStep (origin : Nat → Nat) : Step → Nat → Nat
  | .clone original copy => fun k => if k = copy then origin original else origin k
  | _ => origin

/-- The tracker of which each one is a clone after some steps, by way of other clones perhaps. A new
tracker is its own. -/
def origin (steps : List Step) : Nat → Nat := steps.foldl originStep fun k => k

/-- A connection has been opened by a tracker or a clone of it, and not been closed since. -/
def Holds (steps : List Step) (tracker i : Nat) : Prop :=
  ∃ before source after, steps = before ++ .track source :: after ∧
    before.countP Step.isTrack = i ∧ origin before source = origin steps tracker ∧ .drop i ∉ after

/-- The identifier that a step hands out. -/
def handOut? (t : Tracking) : Step → Option Nat
  | .track tracker => some (t.track tracker).1
  | .takeId => some t.takeId.1
  | _ => none

/-- The identifiers that are handed out in the course of some steps. -/
def handedOut (t : Tracking) : List Step → List Nat
  | [] => []
  | s :: steps => (t.handOut? s).toList ++ (t.step s).handedOut steps

theorem run_nil (t : Tracking) : t.run [] = t := rfl

theorem run_cons (t : Tracking) (s : Step) (steps : List Step) :
    t.run (s :: steps) = (t.step s).run steps := rfl

theorem run_append (t : Tracking) (before after : List Step) :
    t.run (before ++ after) = (t.run before).run after := List.foldl_append

theorem run_concat (t : Tracking) (steps : List Step) (s : Step) :
    t.run (steps ++ [s]) = (t.run steps).step s := run_append t steps [s]

theorem handedOut_concat (t : Tracking) (steps : List Step) (s : Step) :
    t.handedOut (steps ++ [s]) = t.handedOut steps ++ ((t.run steps).handOut? s).toList := by
  induction steps generalizing t with
  | nil => exact List.append_nil _
  | cons r steps ih =>
    rw [List.cons_append, handedOut, handedOut, ih, run_cons, List.append_assoc]

/-! ### The guards -/

/-- The counter that the guard with a number is on, if it is held. -/
def countedBy? (t : Tracking) (i : Nat) : Option Nat := (t.guards[i]?).bind Guard.countedBy?

/-- How many guards are on a counter. -/
def openCount (t : Tracking) (c : Nat) : Nat := t.guards.countP (·.countedBy? == some c)

/-- A guard is on a counter just if it stands in the list with it and is held. -/
theorem countedBy?_eq_some_iff :
    t.countedBy? i = some c ↔ ∃ id, t.guards[i]? = some ⟨c, id, true⟩ := by
  constructor
  · intro h
    obtain ⟨⟨counter, id, held⟩, hguard, hcounter⟩ := Option.bind_eq_some_iff.1 h
    cases held with
    | false => cases hcounter
    | true =>
      cases hcounter
      exact ⟨id, hguard⟩
  · rintro ⟨id, hguard⟩
    rw [countedBy?, hguard]
    rfl

theorem lt_length_of_countedBy? (h : t.countedBy? i = some c) : i < t.guards.length := by
  obtain ⟨id, hguard⟩ := countedBy?_eq_some_iff.1 h
  exact (List.getElem?_eq_some_iff.1 hguard).1

theorem openCount_le_length (t : Tracking) (c : Nat) : t.openCount c ≤ t.guards.length :=
  List.countP_le_length

/-- Counting the guards is counting their numbers. -/
theorem openCount_eq_ncard (t : Tracking) (c : Nat) :
    t.openCount c = {i | t.countedBy? i = some c}.ncard := by
  have hany : ∀ i : Nat,
      (t.guards[i]?).any (·.countedBy? == some c) = true ↔ t.countedBy? i = some c := by
    intro i
    unfold countedBy?
    cases t.guards[i]? with
    | none => simp
    | some g => simp
  rw [openCount, Counting.countP_eq_ncard]
  simp only [hany]

/-! ### What a step does to a guard -/

theorem countedBy?_track : (t.track source).2.countedBy? i =
    if i = t.guards.length then some (t.counter source) else t.countedBy? i := by
  unfold track countedBy?
  simp only
  split
  · next h =>
    rw [h, List.getElem?_concat_length]
    rfl
  · next h =>
    -- the others stand before the one that is added, or are not in either list
    rcases Nat.lt_or_gt_of_ne h with hlt | hgt
    · rw [List.getElem?_append_left hlt]
    · rw [List.getElem?_eq_none (by simp; omega), List.getElem?_eq_none (by omega)]

/-- A guard that is held is taken off its counter when it is dropped. -/
theorem drop_of_countedBy? (h : t.countedBy? i = some c) :
    ∃ id, t.guards[i]? = some ⟨c, id, true⟩ ∧ t.drop i = (true, {
      t with active := change (· - 1) c t.active, guards := t.guards.set i ⟨c, id, false⟩ }) := by
  obtain ⟨id, hguard⟩ := countedBy?_eq_some_iff.1 h
  refine ⟨id, hguard, ?_⟩
  simp only [drop, hguard, if_true]

/-- Nothing comes of dropping a guard that is not held. -/
theorem drop_of_eq_none (h : t.countedBy? i = none) : t.drop i = (false, t) := by
  unfold drop
  split
  · next g hguard =>
    split
    · next hheld =>
      rw [countedBy?, hguard, Option.bind_some, Guard.countedBy?, if_pos hheld] at h
      cases h
    · rfl
  · rfl

theorem counter_drop : (t.drop i).2.counter = t.counter := by
  unfold drop
  split
  · split <;> rfl
  · rfl

theorem nextId_drop : (t.drop i).2.nextId = t.nextId := by
  unfold drop
  split
  · split <;> rfl
  · rfl

/-- Dropping takes no guard off the list. -/
theorem map_id_drop : (t.drop i).2.guards.map Guard.id = t.guards.map Guard.id := by
  unfold drop
  split
  · next g hguard =>
    split
    · have hid : (t.guards.map Guard.id)[i]? = some g.id := by
        rw [List.getElem?_map, hguard]
        rfl
      obtain ⟨hlt, hat⟩ := List.getElem?_eq_some_iff.1 hid
      rw [List.map_set, ← hat, List.set_getElem_self]
    · rfl
  · rfl

theorem length_drop : (t.drop i).2.guards.length = t.guards.length := by
  rw [← List.length_map Guard.id, map_id_drop, List.length_map]

theorem countedBy?_drop :
    (t.drop j).2.countedBy? i = if j = i then none else t.countedBy? i := by
  cases hj : t.countedBy? j with
  | none =>
    rw [drop_of_eq_none hj]
    split
    · next hji => rw [← hji, hj]
    · rfl
  | some c =>
    obtain ⟨id, -, hdrop⟩ := drop_of_countedBy? hj
    rw [hdrop, countedBy?, List.getElem?_set, if_pos (lt_length_of_countedBy? hj)]
    split <;> rfl

theorem countedBy?_step (hi : i < t.guards.length) (s : Step) :
    (t.step s).countedBy? i = if s = .drop i then none else t.countedBy? i := by
  cases s with
  | clone original copy => rfl
  | track source => exact countedBy?_track.trans (if_neg hi.ne)
  | drop j =>
    simp only [Step.drop.injEq]
    exact countedBy?_drop
  | takeId => rfl

theorem length_step (t : Tracking) (s : Step) :
    (t.step s).guards.length = t.guards.length + [s].countP Step.isTrack := by
  cases s with
  | clone original copy => rfl
  | track source => exact List.length_append
  | drop i => exact length_drop
  | takeId => rfl

/-- Guards are numbered in the order in which they are given out. -/
theorem length_run (t : Tracking) (steps : List Step) :
    (t.run steps).guards.length = t.guards.length + steps.countP Step.isTrack := by
  induction steps generalizing t with
  | nil => rfl
  | cons s steps ih =>
    rw [run_cons, ih, length_step, Nat.add_assoc, ← List.countP_append, List.singleton_append]

/-- **A guard stays on its counter until it is dropped.** -/
theorem countedBy?_run (hi : i < t.guards.length) (steps : List Step) :
    (t.run steps).countedBy? i = if .drop i ∈ steps then none else t.countedBy? i := by
  induction steps generalizing t with
  | nil => rfl
  | cons s steps ih =>
    have hlength := length_step t s
    rw [run_cons, ih (by omega), countedBy?_step hi]
    simp only [List.mem_cons, eq_comm (a := Step.drop i)]
    -- if it is dropped later on, it does not matter whether this step has done so
    by_cases hlater : Step.drop i ∈ steps
    · rw [if_pos hlater, if_pos (.inr hlater)]
    · simp only [hlater, or_false, if_false]

/-! ### The guards of a tracker -/

theorem counter_step (t : Tracking) (s : Step) : (t.step s).counter = originStep t.counter s := by
  cases s with
  | clone original copy => rfl
  | track source => rfl
  | drop i => exact counter_drop
  | takeId => rfl

/-- **A tracker goes by the counter of the one of which it is a clone.** -/
theorem counter_run (steps : List Step) : (start.run steps).counter = origin steps := by
  induction steps using List.reverseRecOn with
  | nil => rfl
  | append_singleton steps s ih =>
    rw [run_concat, counter_step, ih, origin, origin, List.foldl_append]
    rfl

/-- A process that starts anew has as many guards as it has opened connections. -/
theorem length_run_start (steps : List Step) :
    (start.run steps).guards.length = steps.countP Step.isTrack := by
  rw [length_run]
  exact Nat.zero_add _

/-- The counter of a guard after the history since it was given out. -/
theorem countedBy?_run_track (before after : List Step) (source : Nat) :
    (start.run (before ++ .track source :: after)).countedBy? (before.countP Step.isTrack) =
      if .drop (before.countP Step.isTrack) ∈ after then none else some (origin before source) := by
  have hlength := length_run_start before
  have hadded := length_step (start.run before) (.track source)
  have hone : [Step.track source].countP Step.isTrack = 1 := rfl
  have hnew : ((start.run before).step (.track source)).countedBy? (before.countP Step.isTrack) =
      some (origin before source) := by
    rw [← counter_run]
    exact countedBy?_track.trans (if_pos hlength.symm)
  rw [run_append, run_cons, countedBy?_run (by omega), hnew]

/-- The place at which a connection was opened. -/
theorem exists_append_track (h : i < steps.countP Step.isTrack) :
    ∃ before source after, steps = before ++ .track source :: after ∧
      before.countP Step.isTrack = i := by
  obtain ⟨before, s, after, hsteps, hs, hcount⟩ := Counting.exists_append_of_lt_countP h
  cases s with
  | track source => exact ⟨before, source, after, hsteps, hcount⟩
  | clone original copy => cases hs
  | drop j => cases hs
  | takeId => cases hs

/-- **The guards on the counter of a tracker are its connections that are open.** -/
theorem holds_iff : Holds steps tracker i ↔
    (start.run steps).countedBy? i = some ((start.run steps).counter tracker) := by
  constructor
  · rintro ⟨before, source, after, rfl, rfl, horigin, hdrop⟩
    rw [countedBy?_run_track, if_neg hdrop, horigin, counter_run]
  · intro h
    -- there are as many guards as connections that were opened, so this one was opened somewhere
    have hlt := lt_length_of_countedBy? h
    rw [length_run_start] at hlt
    obtain ⟨before, source, after, rfl, rfl⟩ := exists_append_track hlt
    rw [countedBy?_run_track, counter_run] at h
    split at h
    · cases h
    · next hdrop => exact ⟨before, source, after, rfl, rfl, Option.some.inj h, hdrop⟩

/-! ### The invariant -/

theorem openCount_track : (t.track source).2.openCount c =
    t.openCount c + if t.counter source = c then 1 else 0 := by
  unfold openCount track
  rw [List.countP_append, List.countP_singleton, Guard.countedBy?_held]
  simp only [Option.some_beq_some, beq_iff_eq]

theorem openCount_drop : t.openCount c =
    (t.drop i).2.openCount c + if t.countedBy? i = some c then 1 else 0 := by
  cases hi : t.countedBy? i with
  | none =>
    rw [drop_of_eq_none hi]
    simp
  | some d =>
    obtain ⟨id, hguard, hdrop⟩ := drop_of_countedBy? hi
    obtain ⟨hlt, hat⟩ := List.getElem?_eq_some_iff.1 hguard
    unfold openCount
    rw [hdrop, List.countP_set hlt, hat]
    by_cases hdc : d = c
    · -- the guard is one of those that are counted, so there is one to take away
      have hpos : 0 < t.guards.countP (·.countedBy? == some c) :=
        List.countP_pos_iff.2 ⟨_, List.mem_of_getElem? hguard, by simp [hdc]⟩
      simp [hdc, Nat.sub_add_cancel hpos]
    · simp [hdc]

theorem active_track : (t.track source).2.active c =
    t.active c + if t.counter source = c then 1 else 0 := by
  unfold track change
  simp only [eq_comm (a := c)]
  split
  · rfl
  · exact (UInt64.add_zero _).symm

theorem active_drop : t.active c =
    (t.drop i).2.active c + if t.countedBy? i = some c then 1 else 0 := by
  cases hi : t.countedBy? i with
  | none =>
    rw [drop_of_eq_none hi]
    exact (UInt64.add_zero _).symm
  | some d =>
    obtain ⟨id, -, hdrop⟩ := drop_of_countedBy? hi
    rw [hdrop]
    unfold change
    simp only [eq_comm (a := c), Option.some.injEq]
    split
    · exact (UInt64.sub_add_cancel _ _).symm
    · exact (UInt64.add_zero _).symm

/-- **What is so of a process after any history.** Every counter says how many guards are on it, as
far as its 64 bits go. -/
def Balanced (t : Tracking) : Prop := ∀ c, t.active c = UInt64.ofNat (t.openCount c)

theorem balanced_start : Balanced start := by
  intro c
  rfl

theorem ofNat_add_ite (k : Nat) (p : Prop) [Decidable p] :
    UInt64.ofNat (k + if p then 1 else 0) = UInt64.ofNat k + if p then 1 else 0 := by
  split
  · exact UInt64.ofNat_add k 1
  · exact (UInt64.add_zero _).symm

namespace Balanced

/-- A step adds to a counter, and takes from it, what it does to the guards. -/
theorem step (h : Balanced t) (s : Step) : Balanced (t.step s) := by
  intro c
  cases s with
  | clone original copy => exact h c
  | track source =>
    calc (t.track source).2.active c
      _ = t.active c + if t.counter source = c then 1 else 0 := active_track
      _ = UInt64.ofNat (t.openCount c + if t.counter source = c then 1 else 0) := by
        rw [h c, ofNat_add_ite]
      _ = UInt64.ofNat ((t.track source).2.openCount c) := by rw [openCount_track]
  | drop i =>
    -- what a guard has been counted for is the same on both sides
    have hsum : (t.drop i).2.active c + (if t.countedBy? i = some c then 1 else 0) =
        UInt64.ofNat ((t.drop i).2.openCount c) + if t.countedBy? i = some c then 1 else 0 := by
      rw [← active_drop, h c, openCount_drop, ofNat_add_ite]
    exact (UInt64.add_left_inj _).1 hsum
  | takeId => exact h c

theorem run (h : Balanced t) (steps : List Step) : Balanced (t.run steps) := by
  induction steps generalizing t with
  | nil => exact h
  | cons s steps ih => exact ih (h.step s)

/-- A counter is exact while there are not more guards than it can count. -/
theorem toNat_active (h : Balanced t) (hlt : t.guards.length < 2 ^ 64) (c : Nat) :
    (t.active c).toNat = t.openCount c := by
  rw [h c]
  exact UInt64.toNat_ofNat_of_lt' ((openCount_le_length t c).trans_lt hlt)

/-- A guard that is dropped takes one from its counter, which is not zero before, and nothing from
the others. -/
theorem toNat_active_drop (h : Balanced t) (hlt : t.guards.length < 2 ^ 64) : (t.active c).toNat =
    ((t.drop i).2.active c).toNat + if t.countedBy? i = some c then 1 else 0 := by
  have hafter : ((t.drop i).2.active c).toNat = (t.drop i).2.openCount c :=
    (h.step (.drop i)).toNat_active (length_drop.trans_lt hlt) c
  rw [h.toNat_active hlt, hafter, openCount_drop]

end Balanced

/-! ### The count of a tracker -/

theorem openCount_eq_zero_iff : t.openCount c = 0 ↔ ∀ i, t.countedBy? i ≠ some c := by
  have hfinite : {i | t.countedBy? i = some c}.Finite :=
    (Set.finite_lt_nat t.guards.length).subset fun i hi => lt_length_of_countedBy? hi
  rw [openCount_eq_ncard, Set.ncard_eq_zero hfinite, Set.eq_empty_iff_forall_notMem]
  rfl

/-- There are not more guards than identifiers that were handed out. -/
theorem length_run_start_lt (hids : steps.countP Step.takesId < 2 ^ 64) :
    (start.run steps).guards.length < 2 ^ 64 := by
  rw [length_run_start]
  -- a connection that is opened takes an identifier
  refine lt_of_le_of_lt (List.countP_mono_left ?_) hids
  intro s _ hs
  cases s with
  | track source => rfl
  | clone original copy => cases hs
  | drop i => cases hs
  | takeId => cases hs

/-- **A tracker counts its connections that are open.** -/
theorem activeCount_run (hids : steps.countP Step.takesId < 2 ^ 64) (tracker : Nat) :
    (start.run steps).activeCount tracker = {i | Holds steps tracker i}.ncard := by
  have hexact := (balanced_start.run steps).toNat_active (length_run_start_lt hids)
  rw [activeCount, hexact, openCount_eq_ncard]
  simp only [holds_iff]

theorem isIdle_run_iff (hids : steps.countP Step.takesId < 2 ^ 64) :
    (start.run steps).isIdle tracker = true ↔ ∀ i, ¬ Holds steps tracker i := by
  have hexact := (balanced_start.run steps).toNat_active (length_run_start_lt hids)
  rw [isIdle, beq_iff_eq, activeCount, hexact, openCount_eq_zero_iff]
  simp only [holds_iff, ne_eq]

/-- A tracker that is not a clone leaves the count alone. -/
theorem activeCount_track (h : t.counter source ≠ t.counter tracker) :
    (t.track source).2.activeCount tracker = t.activeCount tracker := by
  have hactive : (t.track source).2.active (t.counter tracker) = t.active (t.counter tracker) := by
    rw [active_track, if_neg h]
    exact UInt64.add_zero _
  exact congrArg UInt64.toNat hactive

/-- A guard that is not on the counter leaves the count alone. -/
theorem activeCount_drop (h : t.countedBy? i ≠ some (t.counter tracker)) :
    (t.drop i).2.activeCount tracker = t.activeCount tracker := by
  have hactive : t.active (t.counter tracker) = (t.drop i).2.active (t.counter tracker) := by
    rw [active_drop, if_neg h]
    exact UInt64.add_zero _
  rw [activeCount, activeCount, counter_drop, hactive]

/-- The counter of a guard that is dropped is not zero, and falls by one. -/
theorem exists_counter_of_drop (hids : steps.countP Step.takesId < 2 ^ 64)
    (h : ((start.run steps).drop i).1 = true) : ∃ c, (start.run steps).countedBy? i = some c ∧
      (((start.run steps).drop i).2.active c).toNat + 1 = ((start.run steps).active c).toNat := by
  cases hi : (start.run steps).countedBy? i with
  | none =>
    rw [drop_of_eq_none hi] at h
    cases h
  | some c =>
    refine ⟨c, rfl, ?_⟩
    rw [(balanced_start.run steps).toNat_active_drop (length_run_start_lt hids), if_pos hi]

/-! ### The identifiers -/

theorem nextId_step (t : Tracking) (s : Step) :
    (t.step s).nextId = (t.nextId + [s].countP Step.takesId) % 2 ^ 64 := by
  have hlt : t.nextId < 2 ^ 64 := t.sequence.toNat_lt
  cases s with
  | clone original copy => exact (Nat.mod_eq_of_lt hlt).symm
  | track source => exact UInt64.toNat_add _ _
  | drop i => exact nextId_drop.trans (Nat.mod_eq_of_lt hlt).symm
  | takeId => exact UInt64.toNat_add _ _

/-- The next identifier is as many more as have been handed out, until it wraps around. -/
theorem nextId_run (t : Tracking) (steps : List Step) :
    (t.run steps).nextId = (t.nextId + steps.countP Step.takesId) % 2 ^ 64 := by
  induction steps generalizing t with
  | nil => exact (Nat.mod_eq_of_lt t.sequence.toNat_lt).symm
  | cons s steps ih =>
    rw [run_cons, ih, nextId_step, Nat.mod_add_mod, Nat.add_assoc, ← List.countP_append,
      List.singleton_append]

theorem toList_handOut? (t : Tracking) (s : Step) :
    (t.handOut? s).toList = List.range' t.nextId ([s].countP Step.takesId) := by
  cases s <;> rfl

/-- **The identifiers that are handed out follow each other** while they last. -/
theorem handedOut_eq (h : t.nextId + steps.countP Step.takesId ≤ 2 ^ 64) :
    t.handedOut steps = List.range' t.nextId (steps.countP Step.takesId) := by
  induction steps using List.reverseRecOn with
  | nil => rfl
  | append_singleton steps s ih =>
    rw [List.countP_append] at h ⊢
    rw [handedOut_concat, ih (by omega), toList_handOut?, nextId_run]
    -- only a step that hands out one more needs that the sequence has not wrapped around before it
    cases hs : [s].countP Step.takesId with
    | zero => exact List.append_nil _
    | succ k => rw [Nat.mod_eq_of_lt (by omega), List.range'_append_1]

/-- A guard has the identifier that was handed out with it. -/
theorem map_id_step (t : Tracking) (s : Step) : ((t.step s).guards.map Guard.id).Sublist
    (t.guards.map Guard.id ++ (t.handOut? s).toList) := by
  cases s with
  | clone original copy => exact List.sublist_append_left _ _
  | track source =>
    have hnew : (t.track source).2.guards.map Guard.id = t.guards.map Guard.id ++ [t.nextId] :=
      List.map_append
    exact hnew ▸ List.Sublist.refl _
  | drop i =>
    rw [step, map_id_drop]
    exact List.sublist_append_left _ _
  | takeId => exact List.sublist_append_left _ _

theorem map_id_run (steps : List Step) :
    ((start.run steps).guards.map Guard.id).Sublist (start.handedOut steps) := by
  induction steps using List.reverseRecOn with
  | nil => exact List.Sublist.slnil
  | append_singleton steps s ih =>
    rw [run_concat, handedOut_concat]
    exact (map_id_step _ s).trans (ih.append (List.Sublist.refl _))

/-! ### Waiting -/

theorem sleeps?_eq_zero_iff {rounds : List (List Step)} :
    t.sleeps? tracker rounds = some 0 ↔ t.isIdle tracker = true := by
  cases rounds with
  | nil => simp [sleeps?]
  | cons steps later => simp [sleeps?]

theorem sleeps?_cons_eq_succ_iff {later : List (List Step)} :
    t.sleeps? tracker (steps :: later) = some (n + 1) ↔
      t.isIdle tracker = false ∧ (t.run steps).sleeps? tracker later = some n := by
  rw [sleeps?]
  split
  · next hidle => simp [hidle]
  · next hbusy => simp [hbusy]

/-- **Waiting ends at the first look that finds the tracker idle.** -/
theorem sleeps?_eq_some_iff {rounds : List (List Step)} : t.sleeps? tracker rounds = some n ↔
    n ≤ rounds.length ∧ (t.run (rounds.take n).flatten).isIdle tracker = true ∧
      ∀ k < n, (t.run (rounds.take k).flatten).isIdle tracker = false := by
  induction n generalizing t rounds with
  | zero =>
    rw [sleeps?_eq_zero_iff]
    simp [run_nil]
  | succ n ih =>
    cases rounds with
    | nil => simp [sleeps?]
    | cons steps later =>
      -- the first look is at the process itself, and the others are those of the later rounds
      have hrun : ∀ k, t.run ((steps :: later).take (k + 1)).flatten =
          (t.run steps).run (later.take k).flatten := by
        intro k
        rw [List.take_succ_cons, List.flatten_cons, run_append]
      have hlooks : (∀ k < n + 1, (t.run ((steps :: later).take k).flatten).isIdle tracker = false) ↔
          t.isIdle tracker = false ∧
            ∀ k < n, ((t.run steps).run (later.take k).flatten).isIdle tracker = false := by
        rw [Nat.forall_lt_succ_left]
        simp only [hrun, List.take_zero, List.flatten_nil, run_nil]
      rw [sleeps?_cons_eq_succ_iff, ih, hrun, hlooks, List.length_cons, Nat.succ_le_succ_iff]
      tauto

/-! ### Main result -/

/-- **A tracker counts exactly its connections that are open.** After any steps of a process, in
which trackers are cloned, connections opened and closed in whatever order, and identifiers taken for
something else, fewer than 2⁶⁴ of them in all:

* each tracker counts the connections that it or a clone of it has opened and whose guard has not
  been dropped;
* a guard that is dropped finds its counter above zero;
* the identifiers that have been handed out are distinct and rise, and the guards have theirs in the
  order in which they were given out;
* a tracker of another origin, and a guard that is not of this tracker, leave its count alone;
* waiting ends without a sleep just if no connection of the tracker is open. -/
theorem tracking_run (steps : List Step) (hids : steps.countP Step.takesId < 2 ^ 64) :
    (∀ tracker, (start.run steps).activeCount tracker = {i | Holds steps tracker i}.ncard) ∧
    (∀ i, ((start.run steps).drop i).1 = true → ∃ c, (start.run steps).countedBy? i = some c ∧
      (((start.run steps).drop i).2.active c).toNat + 1 = ((start.run steps).active c).toNat) ∧
    ((start.handedOut steps).length = steps.countP Step.takesId ∧
      (start.handedOut steps).Pairwise (· < ·) ∧
      ((start.run steps).guards.map Guard.id).Sublist (start.handedOut steps)) ∧
    (∀ tracker source, origin steps source ≠ origin steps tracker →
      ((start.run steps).track source).2.activeCount tracker =
        (start.run steps).activeCount tracker) ∧
    (∀ tracker i, ¬ Holds steps tracker i →
      ((start.run steps).drop i).2.activeCount tracker = (start.run steps).activeCount tracker) ∧
    ∀ tracker rounds, (start.run steps).sleeps? tracker rounds = some 0 ↔
      ∀ i, ¬ Holds steps tracker i := by
  have hhandedOut : start.handedOut steps = List.range' 1 (steps.countP Step.takesId) :=
    handedOut_eq (Nat.one_add_le_iff.2 hids)
  refine ⟨activeCount_run hids, fun i => exists_counter_of_drop hids, ⟨?_, ?_, map_id_run steps⟩,
    ?_, ?_, ?_⟩
  · rw [hhandedOut, List.length_range']
  · rw [hhandedOut]
    exact List.pairwise_lt_range' 1
  · intro tracker source horigin
    rw [← counter_run] at horigin
    exact activeCount_track horigin
  · intro tracker i hnot
    rw [holds_iff] at hnot
    exact activeCount_drop hnot
  · intro tracker rounds
    rw [sleeps?_eq_zero_iff, isIdle_run_iff hids]

/-- The second tracker is a clone of the first and the third is another one. One of three connections
is closed, and an identifier is taken in between. -/
theorem tracking_run_clone :
    let steps : List Step := [.clone 0 1, .track 0, .track 2, .takeId, .track 1, .drop 0]
    (start.run steps).activeCount 0 = {i | Holds steps 0 i}.ncard ∧
      (start.run steps).activeCount 0 = 1 ∧ (start.run steps).activeCount 1 = 1 ∧
      (∃ c, (start.run steps).countedBy? 2 = some c ∧
        (((start.run steps).drop 2).2.active c).toNat + 1 = ((start.run steps).active c).toNat) ∧
      start.handedOut steps = [1, 2, 3, 4] ∧ (start.handedOut steps).Pairwise (· < ·) ∧
      ((start.run steps).track 2).2.activeCount 0 = (start.run steps).activeCount 0 ∧
      (start.run steps).sleeps? 0 [[.drop 2]] = some 1 ∧
      ((start.run (steps ++ [.drop 2])).sleeps? 1 [] = some 0 ↔
        ∀ i, ¬ Holds (steps ++ [.drop 2]) 1 i) := by
  intro steps
  obtain ⟨hcount, hdrop, ⟨-, hrise, -⟩, hother, -, -⟩ := tracking_run steps (by decide)
  obtain ⟨-, -, -, -, -, hwait⟩ := tracking_run (steps ++ [.drop 2]) (by decide)
  exact ⟨hcount 0, by decide, by decide, hdrop 2 (by decide), by decide, hrise,
    hother 0 2 (by decide), by decide, hwait 1 []⟩

end Tracking

end ReflectCalc
