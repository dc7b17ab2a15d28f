import ReflectCalc.Net.Broadcast
import ReflectCalc.Proofs.Net.Counting

/-!
# What the receivers of a channel are told

All receivers of a channel share the one message it keeps and the count of what has been sent. Still
each of them is told what it would be told on a channel of its own: it has a number of messages
before it, which rises with every message sent and falls when it asks.

* `Broadcast.pending?` is that number, recovered from the position of the receiver;
* `Broadcast.law` is what a step does to the number of one receiver, without regard to the others,
  and `Notice.ofPending?` is what a receiver with that number is told;
* `Broadcast.delivery_run` is the main result, for every history of a new channel.

The invariant is `Broadcast.Sound`: no receiver stands beyond the messages that were sent. It makes
the law hold of one step (`Broadcast.Sound.pending?_step`), and of a history by induction
(`Broadcast.Sound.pending?_run`). What a receiver is told depends on its number alone, so histories
that agree on it are told apart by nobody (`Broadcast.Sound.told_congr`).
-/

namespace ReflectCalc

/-- What a receiver is told that has so many messages before it, `none` if it is not held. -/
def Notice.ofPending? : Option Nat → Notice
  | none => .nothing
  | some 0 => .empty
  | some 1 => .signal
  | some (k + 2) => .lagged (k + 1)

namespace Broadcast

variable {b b' : Broadcast} {i j k p : Nat} {s : Step} {steps before after : List Step}

/-! ### Histories -/

/-- The channel after some steps. -/
def run (b : Broadcast) (steps : List Step) : Broadcast := steps.foldl step b

/-- What a receiver is told in the course of some steps. -/
def told (b : Broadcast) (i : Nat) : List Step → List Notice
  | [] => []
  | s :: steps => (if s = .receive i then [(b.receive i).1] else []) ++ (b.step s).told i steps

/-- A receiver has been obtained and not been dropped since. -/
def Held (i : Nat) (steps : List Step) : Prop :=
  ∃ before clone after, steps = before ++ .subscribe clone :: after ∧
    before.countP Step.isSubscribe = i ∧ .drop i ∉ after

theorem run_cons (b : Broadcast) (s : Step) (steps : List Step) :
    b.run (s :: steps) = (b.step s).run steps := rfl

theorem run_append (b : Broadcast) (before after : List Step) :
    b.run (before ++ after) = (b.run before).run after := List.foldl_append

theorem told_append (b : Broadcast) (i : Nat) (before after : List Step) :
    b.told i (before ++ after) = b.told i before ++ (b.run before).told i after := by
  induction before generalizing b with
  | nil => rfl
  | cons s before ih =>
    change _ ++ (b.step s).told i (before ++ after) = (_ ++ (b.step s).told i before) ++ _
    rw [ih, List.append_assoc]
    rfl

/-! ### The positions of the receivers -/

/-- How many messages a receiver has before it when it has asked. One that has missed messages
stands before the newest. -/
def remaining (k : Nat) : Nat := if k ≤ 1 then 0 else 1

theorem remaining_le (k : Nat) : remaining k ≤ k := by
  unfold remaining
  split <;> omega

/-- A receiver that is held is one of the list. -/
theorem lt_length_of_position? (h : b.position? i = some p) : i < b.receivers.length := by
  by_contra hge
  rw [position?, List.getElem?_eq_none (Nat.le_of_not_lt hge)] at h
  cases h

/-- A receiver is put into another position, and the others stay where they are. -/
theorem position?_set (h : b.position? j = some p) (sent : Nat) (x : Option Nat) :
    position? ⟨sent, b.receivers.set j x⟩ i = if j = i then x else b.position? i := by
  have hlt := lt_length_of_position? h
  unfold position?
  rw [List.getElem?_set, if_pos hlt]
  split <;> rfl

/-- Nobody is held on a channel without receivers. -/
theorem position?_of_receiverCount (h : b.receiverCount = 0) (i : Nat) : b.position? i = none := by
  unfold receiverCount at h
  rw [List.countP_eq_zero] at h
  unfold position?
  cases hi : b.receivers[i]? with
  | none => rfl
  | some x => simpa using h x (List.mem_of_getElem? hi)

theorem position?_subscribe :
    b.subscribe.position? i = if i = b.receivers.length then some b.sent else b.position? i := by
  unfold subscribe position?
  simp only
  split
  · next h => rw [h, List.getElem?_concat_length]; rfl
  · next h =>
    rcases Nat.lt_or_gt_of_ne h with hlt | hgt
    · rw [List.getElem?_append_left hlt]
    · rw [List.getElem?_eq_none (by simp; omega), List.getElem?_eq_none (by omega)]

/-- A message sent to nobody leaves no trace. -/
theorem trigger_of_receiverCount (h : b.receiverCount = 0) : b.trigger = b := if_pos h

theorem position?_trigger : b.trigger.position? i = b.position? i := by
  unfold trigger
  split <;> rfl

theorem position?_drop : (b.drop j).2.position? i = if j = i then none else b.position? i := by
  unfold drop
  split
  · next p hp => exact position?_set hp b.sent none
  · next hnone =>
    split
    · next h => rw [← h, hnone]
    · rfl

theorem sent_drop : (b.drop j).2.sent = b.sent := by
  unfold drop
  split <;> rfl

theorem sent_receive : (b.receive j).2.sent = b.sent := by
  unfold receive
  split
  · rfl
  split
  · rfl
  split <;> rfl

/-- **What is so of a channel after any history.** No receiver has a message behind it that has not
been sent. -/
def Sound (b : Broadcast) : Prop := ∀ i p, b.position? i = some p → p ≤ b.sent

/-- A receiver that asks is put before what remains for it. -/
theorem Sound.position?_receive (h : Sound b) : (b.receive j).2.position? i =
    if j = i then (b.position? i).map fun p => b.sent - remaining (b.sent - p)
    else b.position? i := by
  unfold receive
  split
  · next hnone =>
    split
    · next hji => rw [← hji, hnone]; rfl
    · rfl
  next p hp =>
  have hle := h j p hp
  by_cases hji : j = i
  · subst hji
    rw [if_pos rfl, hp, Option.map_some, remaining]
    split
    · -- there is no message, so the position is that of the last one that was sent
      rw [hp, if_pos (by omega)]
      congr 1
      omega
    split
    · rw [position?_set hp, if_pos rfl, if_pos (by omega)]
      rfl
    · rw [position?_set hp, if_pos rfl, if_neg (by omega)]
  · rw [if_neg hji]
    split
    · rfl
    split <;> rw [position?_set hp, if_neg hji]

theorem sound_new : Sound new := by
  intro i p h
  cases h

/-- A step moves no receiver beyond the messages that were sent. -/
theorem Sound.step (h : Sound b) (s : Step) : Sound (b.step s) := by
  intro i p hp
  cases s with
  | subscribe clone =>
    rw [Broadcast.step, position?_subscribe] at hp
    split at hp
    · exact Nat.le_of_eq (Option.some.inj hp).symm
    · exact h i p hp
  | trigger clone =>
    rw [Broadcast.step, position?_trigger] at hp
    have hle := h i p hp
    rw [Broadcast.step, trigger]
    split
    · exact hle
    · exact Nat.le_succ_of_le hle
  | drop j =>
    rw [Broadcast.step, position?_drop] at hp
    rw [Broadcast.step, sent_drop]
    split at hp
    · cases hp
    · exact h i p hp
  | receive j =>
    rw [Broadcast.step, h.position?_receive] at hp
    rw [Broadcast.step, sent_receive]
    split at hp
    · obtain ⟨q, -, rfl⟩ := Option.map_eq_some_iff.1 hp
      exact Nat.sub_le _ _
    · exact h i p hp

/-! ### The law of one step -/

/-- How many messages a receiver has before it, `none` if it is not held. -/
def pending? (b : Broadcast) (i : Nat) : Option Nat := (b.position? i).map (b.sent - ·)

/-- What a step does to the number of messages before a receiver. -/
def law (i : Nat) (pending : Option Nat) : Step → Option Nat
  | .subscribe _ => pending
  | .trigger _ => pending.map (· + 1)
  | .drop j => if j = i then none else pending
  | .receive j => if j = i then pending.map remaining else pending

theorem pending?_eq_none_iff : b.pending? i = none ↔ b.position? i = none := Option.map_eq_none_iff

namespace Sound

theorem pending?_trigger (h : Sound b) : b.trigger.pending? i = (b.pending? i).map (· + 1) := by
  by_cases hnobody : b.receiverCount = 0
  · have hnone := pending?_eq_none_iff.2 (position?_of_receiverCount hnobody i)
    rw [trigger_of_receiverCount hnobody, hnone]
    rfl
  · have hsent : b.trigger.sent = b.sent + 1 := by rw [trigger, if_neg hnobody]
    unfold pending?
    rw [position?_trigger, hsent]
    cases hp : b.position? i with
    | none => rfl
    | some p => exact congrArg some (Nat.succ_sub (h i p hp))

theorem pending?_receive (h : Sound b) :
    (b.receive j).2.pending? i = if j = i then (b.pending? i).map remaining else b.pending? i := by
  unfold pending?
  rw [h.position?_receive, sent_receive]
  split
  · cases hp : b.position? i with
    | none => rfl
    | some p =>
      have hle := remaining_le (b.sent - p)
      simp only [Option.map_some, Option.some.injEq]
      omega
  · rfl

/-- **The law of one receiver holds of one step**, and a receiver that is added has nothing before
it. -/
theorem pending?_step (h : Sound b) (s : Step) : (b.step s).pending? i =
    if s.isSubscribe ∧ i = b.receivers.length then some 0 else law i (b.pending? i) s := by
  cases s with
  | subscribe clone =>
    unfold Broadcast.step pending?
    rw [position?_subscribe]
    simp only [Step.isSubscribe, true_and, law]
    split
    · exact congrArg some (Nat.sub_self b.sent)
    · rfl
  | trigger clone => simpa [Broadcast.step, Step.isSubscribe, law] using h.pending?_trigger
  | drop j =>
    unfold Broadcast.step pending?
    rw [position?_drop, sent_drop]
    simp only [Step.isSubscribe, Bool.false_eq_true, false_and, if_false, law]
    split <;> rfl
  | receive j => simpa [Broadcast.step, Step.isSubscribe, law] using h.pending?_receive

/-- What a receiver is told depends on the number of messages before it alone. -/
theorem receive_fst (h : Sound b) : (b.receive i).1 = Notice.ofPending? (b.pending? i) := by
  unfold receive pending?
  split
  · next hnone => rw [hnone]; rfl
  next p hp =>
  obtain ⟨k, hk⟩ := Nat.exists_eq_add_of_le (h i p hp)
  rw [hp, hk, Option.map_some, Nat.add_sub_cancel_left]
  -- the cases are those of the number of messages
  match k with
  | 0 => simp [Notice.ofPending?]
  | 1 => simp [Notice.ofPending?]
  | k + 2 =>
    rw [if_neg (by omega), if_neg (by omega)]
    simp only [Notice.ofPending?, Notice.lagged.injEq]
    omega

end Sound

/-! ### The law of a history -/

theorem length_step (b : Broadcast) (s : Step) :
    (b.step s).receivers.length = b.receivers.length + [s].countP Step.isSubscribe := by
  cases s with
  | subscribe clone => exact List.length_append
  | trigger clone =>
    rw [step, trigger]
    split <;> rfl
  | drop j =>
    rw [step, drop]
    split
    · exact List.length_set
    · rfl
  | receive j =>
    rw [step, receive]
    split
    · rfl
    split
    · rfl
    split <;> exact List.length_set

/-- Receivers are numbered in the order in which they are added. -/
theorem length_run (b : Broadcast) (steps : List Step) :
    (b.run steps).receivers.length = b.receivers.length + steps.countP Step.isSubscribe := by
  induction steps generalizing b with
  | nil => rfl
  | cons s steps ih =>
    rw [run_cons, ih, length_step, Nat.add_assoc, ← List.countP_append, List.singleton_append]

namespace Sound

theorem run (h : Sound b) (steps : List Step) : Sound (b.run steps) := by
  induction steps generalizing b with
  | nil => exact h
  | cons s steps ih => exact ih (h.step s)

/-- **The law of one receiver holds of a history.** -/
theorem pending?_run (h : Sound b) (hi : i < b.receivers.length) (steps : List Step) :
    (b.run steps).pending? i = steps.foldl (law i) (b.pending? i) := by
  induction steps generalizing b with
  | nil => rfl
  | cons s steps ih =>
    have hlength := length_step b s
    have hnot : ¬ (s.isSubscribe = true ∧ i = b.receivers.length) := fun e => by omega
    rw [run_cons, ih (h.step s) (by omega), h.pending?_step, if_neg hnot, List.foldl_cons]

end Sound

/-- What a receiver has before it after the history since it was added. -/
theorem pending?_run_subscribe (before after : List Step) (clone : Nat) :
    (new.run (before ++ .subscribe clone :: after)).pending? (before.countP Step.isSubscribe) =
      after.foldl (law (before.countP Step.isSubscribe)) (some 0) := by
  have hsound := sound_new.run before
  have hlength : (new.run before).receivers.length = before.countP Step.isSubscribe := by
    rw [length_run]
    exact Nat.zero_add _
  have hadded := length_step (new.run before) (.subscribe clone)
  have hone : [Step.subscribe clone].countP Step.isSubscribe = 1 := rfl
  rw [run_append, run_cons, (hsound.step _).pending?_run (by omega), hsound.pending?_step,
    if_pos ⟨rfl, hlength.symm⟩]

/-! ### The receivers that are held -/

/-- A receiver that is held stays so until it is dropped. -/
theorem isSome_foldl_law (p : Option Nat) (steps : List Step) :
    (steps.foldl (law i) p).isSome ↔ p.isSome ∧ .drop i ∉ steps := by
  induction steps generalizing p with
  | nil => simp
  | cons s steps ih =>
    have hstep : (law i p s).isSome ↔ p.isSome ∧ s ≠ .drop i := by
      cases s with
      | subscribe clone => simp [law]
      | trigger clone => simp [law]
      | drop j => by_cases hji : j = i <;> simp [law, hji]
      | receive j => by_cases hji : j = i <;> simp [law, hji]
    rw [List.foldl_cons, ih, hstep, List.mem_cons, not_or, and_assoc, ne_comm]

/-- The place at which a receiver was added. -/
theorem exists_append_subscribe (h : i < steps.countP Step.isSubscribe) :
    ∃ before clone after, steps = before ++ .subscribe clone :: after ∧
      before.countP Step.isSubscribe = i := by
  obtain ⟨before, s, after, hsteps, hs, hcount⟩ := Counting.exists_append_of_lt_countP h
  cases s with
  | subscribe clone => exact ⟨before, clone, after, hsteps, hcount⟩
  | trigger clone => cases hs
  | drop j => cases hs
  | receive j => cases hs

/-- The receivers that have a number of messages before them are those that were obtained and not
dropped since. -/
theorem isSome_pending?_iff : ((new.run steps).pending? i).isSome ↔ Held i steps := by
  constructor
  · intro h
    obtain ⟨p, hp⟩ : ∃ p, (new.run steps).position? i = some p := by
      rw [← Option.isSome_iff_exists]
      simpa [pending?] using h
    have hlt := lt_length_of_position? hp
    rw [length_run] at hlt
    have hadded : i < steps.countP Step.isSubscribe := by simpa [new] using hlt
    obtain ⟨before, clone, after, rfl, rfl⟩ := exists_append_subscribe hadded
    rw [pending?_run_subscribe, isSome_foldl_law] at h
    exact ⟨before, clone, after, rfl, rfl, h.2⟩
  · rintro ⟨before, clone, after, rfl, rfl, hdrop⟩
    rw [pending?_run_subscribe, isSome_foldl_law]
    exact ⟨rfl, hdrop⟩

/-- How many places have something is how many of them are found by their numbers. -/
theorem countP_isSome_eq_ncard {α : Type} (l : List (Option α)) :
    l.countP Option.isSome = {i : Nat | (l[i]?).join.isSome}.ncard := by
  have hany : ∀ i : Nat, (l[i]?).any Option.isSome = (l[i]?).join.isSome := by
    intro i
    cases l[i]? with
    | none => rfl
    | some x => rfl
  rw [Counting.countP_eq_ncard]
  simp only [hany]

/-! ### What the others do -/

/-- **A receiver is told what its own number says**, so channels that agree on it are the same to
this receiver. -/
theorem Sound.told_congr (h : Sound b) (h' : Sound b')
    (hlength : b.receivers.length = b'.receivers.length) (hpending : b.pending? i = b'.pending? i)
    (steps : List Step) : b.told i steps = b'.told i steps := by
  induction steps generalizing b b' with
  | nil => rfl
  | cons s steps ih =>
    have hrest : (b.step s).told i steps = (b'.step s).told i steps := by
      refine ih (h.step s) (h'.step s) ?_ ?_
      · rw [length_step, length_step, hlength]
      · rw [h.pending?_step, h'.pending?_step, hlength, hpending]
    rw [told, told, h.receive_fst, h'.receive_fst, hpending, hrest]

/-- What another receiver does, or that it is dropped, changes nothing of what a receiver is told. -/
theorem told_of_other (hji : j ≠ i) (hs : s = .drop j ∨ s = .receive j) (before after : List Step) :
    new.told i (before ++ s :: after) = new.told i (before ++ after) := by
  have hsound := sound_new.run before
  have hlength : ((new.run before).step s).receivers.length = (new.run before).receivers.length := by
    rw [length_step]
    rcases hs with rfl | rfl <;> rfl
  have hpending : ((new.run before).step s).pending? i = (new.run before).pending? i := by
    rw [hsound.pending?_step]
    rcases hs with rfl | rfl <;> simp [Step.isSubscribe, law, hji]
  have hnothing : s ≠ .receive i := by
    rcases hs with rfl | rfl
    · exact Step.noConfusion
    · exact fun e => hji (Step.receive.inj e)
  rw [told_append, told_append, told, if_neg hnothing, List.nil_append,
    (hsound.step s).told_congr hsound hlength hpending]

/-! ### Main result -/

/-- **Each receiver is told of the messages that were sent since it was added, whatever the others
do.** After any steps of a new channel, in whatever order and through whichever clones of its sender:

* the receivers are counted that were obtained and not dropped since, and these are the ones that
  have a number of messages before them;
* this number starts with zero and follows its law, and what a receiver is told is what it says:
  nothing new for zero, a message for one, and for more than one how many were missed, with the
  newest still to come;
* what another receiver does, or that it is dropped, changes nothing of what a receiver is told in
  the course of the history;
* a message sent while there are no receivers might as well not have been sent. -/
theorem delivery_run (steps : List Step) :
    ((new.run steps).receiverCount = {i | Held i steps}.ncard ∧
      ∀ i, ((new.run steps).pending? i).isSome ↔ Held i steps) ∧
    (∀ clone after, (new.run (steps ++ .subscribe clone :: after)).pending?
        (steps.countP Step.isSubscribe)
      = after.foldl (law (steps.countP Step.isSubscribe)) (some 0)) ∧
    (∀ i, ((new.run steps).receive i).1 = Notice.ofPending? ((new.run steps).pending? i)) ∧
    (∀ i j s after, j ≠ i → s = .drop j ∨ s = .receive j →
      new.told i (steps ++ s :: after) = new.told i (steps ++ after)) ∧
    ((new.run steps).receiverCount = 0 → ∀ clone after,
      new.run (steps ++ .trigger clone :: after) = new.run (steps ++ after) ∧
      ∀ i, new.told i (steps ++ .trigger clone :: after) = new.told i (steps ++ after)) := by
  refine ⟨⟨?_, fun i => isSome_pending?_iff⟩, fun clone after => pending?_run_subscribe _ _ _,
    fun i => (sound_new.run steps).receive_fst, fun i j s after hji hs => told_of_other hji hs _ _,
    fun hnobody clone after => ?_⟩
  · have hset : {i | Held i steps} = {i | ((new.run steps).receivers[i]?).join.isSome} := by
      ext i
      rw [Set.mem_ofPred_eq, Set.mem_ofPred_eq, ← isSome_pending?_iff, pending?, Option.isSome_map]
      rfl
    rw [hset, ← countP_isSome_eq_ncard]
    rfl
  · have hstep : (new.run steps).step (.trigger clone) = new.run steps :=
      trigger_of_receiverCount hnobody
    refine ⟨?_, fun i => ?_⟩
    · rw [run_append, run_append, run_cons, hstep]
    · rw [told_append, told_append, told, hstep]
      rfl

/-- Nobody hears the first message. The first receiver misses one of two, the second is added
between them, and a third is dropped before it has asked. -/
theorem delivery_run_three_receivers :
    let steps : List Step := [.trigger 0, .subscribe 0, .trigger 1, .subscribe 1, .subscribe 0,
      .trigger 0, .drop 2]
    (new.run steps).receiverCount = {i | Held i steps}.ncard ∧ (new.run steps).receiverCount = 2 ∧
      (new.run steps).pending? 0 = some 2 ∧ ((new.run steps).receive 0).1 = .lagged 1 ∧
      ((new.run steps).receive 1).1 = .signal ∧ ((new.run steps).receive 2).1 = .nothing ∧
      new.told 1 (steps ++ .receive 0 :: [.trigger 3, .receive 1, .receive 1])
        = new.told 1 (steps ++ [.trigger 3, .receive 1, .receive 1]) ∧
      new.run ([] ++ .trigger 0 :: steps.tail) = new.run steps.tail := by
  intro steps
  obtain ⟨⟨hcount, -⟩, -, htold, hother, -⟩ := delivery_run steps
  obtain ⟨-, hpending, -, -, -⟩ := delivery_run [.trigger 0]
  obtain ⟨-, -, -, -, hlost⟩ := delivery_run []
  have hzero : (new.run steps).pending? 0 = some 2 :=
    hpending 0 [.trigger 1, .subscribe 1, .subscribe 0, .trigger 0, .drop 2]
  refine ⟨hcount, by decide, hzero, ?_, (htold 1).trans (by decide), (htold 2).trans (by decide),
    hother 1 0 (.receive 0) _ (by decide) (.inr rfl), (hlost rfl 0 steps.tail).1⟩
  rw [htold 0, hzero]
  rfl

end Broadcast

end ReflectCalc
