import ReflectCalc.Proofs.Net.Listener
import ReflectCalc.Proofs.Net.Tracker
import ReflectCalc.Proofs.Service.Lifecycle
import ReflectCalc.Service.Run

/-!
# The connections of a server

The listener, the tracker and the life of a server are three machines, and each has its own theory.
In the run of a server they keep step: whoever has a slot has a guard, the tracker counts just the
connections that the listener serves, and the listener is closed just if the life has stopped.

* `ServerRun.Moves` lists, as a relation, what each step can do;
* `ServerRun.Counts` ties the tracker to the clients that are being served, and `ServerRun.Sound` is
  the invariant that ties all three machines together. One step keeps it (`ServerRun.Sound.moves`);
* `ServerRun.connections_run` is the main result: how slots, tasks and guards agree after any run.
  It needs no bound on how many connections there have been, since the counter of 64 bits never holds
  more than there are slots.

Clients are admitted in the order of their arrival and guards are given out in the order of
admission. So the guard of a client has the number of that client, which is why `ServerRun.Sound`
speaks of the number of admitted clients only.
-/

namespace ReflectCalc

/-! ### What the machines do to one another -/

namespace Listener

variable {l : Listener} {limit n client : Nat} {s : Step}

theorem limit_step (l : Listener) (s : Step) : (l.step s).limit = l.limit := by
  have hrelease : l.release.limit = l.limit := by
    unfold release
    split <;> rfl
  cases s with
  | arrive => rfl
  | takeSlot => simp only [step]; split <;> rfl
  | accept => simp only [step]; split <;> rfl
  | fail => exact hrelease
  | cancel => exact hrelease
  | finish client how => simp only [step]; split <;> rfl
  | stop => exact hrelease

/-- Connections begin with an admission, and end one by one. -/
theorem running_step (haccept : s ≠ .accept) (hfinish : ∀ client how, s ≠ .finish client how) :
    (l.step s).running = l.running := by
  have hrelease : l.release.running = l.running := by
    unfold release
    split <;> rfl
  cases s with
  | arrive => rfl
  | takeSlot => simp only [step]; split <;> rfl
  | accept => exact absurd rfl haccept
  | fail => exact hrelease
  | cancel => exact hrelease
  | finish client how => exact absurd rfl (hfinish client how)
  | stop => exact hrelease

theorem running_stop (l : Listener) : (l.step .stop).running = l.running :=
  running_step (by decide) (fun _ _ h => nomatch h)

theorem running_accept (hnext : l.next? = some client) :
    (l.step .accept).running = l.running ++ [client] := by
  simp only [step, hnext]

/-- A listener that is closed keeps no slot for a client still to come. -/
def LetsGo (l : Listener) : Prop := l.stopped = true → l.holding = false

theorem LetsGo.step (h : l.LetsGo) (s : Step) : (l.step s).LetsGo := by
  have hrelease : l.release.holding = false := by
    unfold release
    cases hholding : l.holding with
    | true => rfl
    | false => exact hholding
  cases s with
  | arrive => exact h
  | takeSlot =>
    simp only [Listener.step]
    split
    · next hfree =>
      intro hstopped
      cases hfree.1.symm.trans hstopped
    · exact h
  | accept =>
    simp only [Listener.step]
    split
    · exact fun _ => rfl
    · exact h
  | fail => exact fun _ => hrelease
  | cancel => exact fun _ => hrelease
  | finish client how =>
    simp only [Listener.step]
    split
    · exact h
    · exact h
  | stop => exact fun _ => hrelease

/-- The clients are admitted in the order of their numbers. -/
theorem Sound.next?_eq (h : l.Sound limit (List.range n)) (hnext : l.next? = some client) :
    client = n := by
  obtain ⟨-, -, rest, hwaiting⟩ := next?_eq_some.1 hnext
  have hat : (List.range l.arrived)[n]? = some client := by
    rw [← h.order, hwaiting, List.getElem?_append_right (by simp)]
    simp
  obtain ⟨_, hclient⟩ := List.getElem?_eq_some_iff.1 hat
  rw [List.getElem_range] at hclient
  exact hclient.symm

end Listener

namespace Lifecycle

variable {l l' : Lifecycle} {s : Step}

/-- Only by hearing of a request does a server stop, and it does not start again. -/
theorem stopped_iff_of_step? (hstep : l.step? s = some l')
    (hunheard : s = .receive → l'.phase ≠ .stopped) :
    l'.phase = .stopped ↔ l.phase = .stopped := by
  cases step?_eq_some_iff.1 hstep with
  | hear _ _ => exact absurd rfl (hunheard rfl)
  | watch hphase | bind hphase | subscribe hphase | accept hphase => simp [hphase]
  | signal _ => exact Iff.rfl
  | idle _ _ => exact Iff.rfl

/-- The address of the server is still to be bound. -/
def IsUnbound (l : Lifecycle) : Prop := l.phase = .created ∨ l.phase = .watching

theorem isUnbound_of_step? (hstep : l.step? s = some l') (h : l'.IsUnbound) : l.IsUnbound := by
  cases step?_eq_some_iff.1 hstep with
  | watch hphase => exact .inl hphase
  | signal _ => exact h
  | idle _ _ => exact h
  | bind _ | subscribe _ | accept _ | hear _ _ => simp [IsUnbound] at h

theorem isUnbound_of_bind (hstep : l.step? .bind = some l') :
    l.phase = .watching ∧ l'.phase = .bound := by
  cases step?_eq_some_iff.1 hstep with
  | bind hphase => exact ⟨hphase, rfl⟩

end Lifecycle

namespace ServerRun

variable {r r' : ServerRun} {s : Step} {steps : List Step} {n client : Nat}
  {served : List Nat} {t : Tracking}

/-! ### Steps as a relation -/

/-- What a step can do to a server whose run has not ended. -/
inductive Moves (r : ServerRun) : Step → ServerRun → Prop
  /-- The listener is as it was, and the server has not heard of a request. -/
  | live {s : Step} {t : Lifecycle.Step} {life : Lifecycle} (hs : s.life? = some t)
    (hbind : t ≠ .bind) (hstep : r.life.step? t = some life)
    (hunheard : t = .receive → life.phase ≠ .stopped) : Moves r s { r with life := life }
  | bind {limit : Nat} {listener : Listener} {life : Lifecycle}
    (hopen : Listener.open? limit = some listener) (hstep : r.life.step? .bind = some life) :
    Moves r (.bind limit) { r with life := life, listener := listener }
  | hear {life : Lifecycle} (hstep : r.life.step? .receive = some life)
    (hstopped : life.phase = .stopped) :
    Moves r .look { r with life := life, listener := r.listener.step .stop }
  | arrive (hqueues : r.life.phase.queues = true) : Moves r .arrive (r.listen .arrive)
  | takeSlot (hphase : r.life.phase = .accepting) : Moves r .takeSlot (r.listen .takeSlot)
  | accept {client : Nat} (hphase : r.life.phase = .accepting)
    (hnext : r.listener.next? = some client) : Moves r .accept (r.withTask client)
  | fail (hphase : r.life.phase = .accepting) : Moves r .fail (r.listen .fail)
  | finish {task : ServerTask} (how : Listener.Ending) (htask : task ∈ r.tasks) :
    Moves r (.finish task.client how) (r.withoutTask task how)
  /-- The server that has stopped finds no connection open. -/
  | idle (hphase : r.life.phase = .stopped) (hidle : r.tracking.isIdle tracker = true) :
    Moves r .rest { r with outcome := some .idle }
  /-- The server that has stopped finds a connection open. -/
  | busy (hphase : r.life.phase = .stopped) (hbusy : r.tracking.isIdle tracker = false) :
    Moves r .rest r
  | giveUp (hphase : r.life.phase = .stopped) :
    Moves r .giveUp
      { r with outcome := some (.abandoned (r.tracking.activeCount tracker)) }

theorem exists_of_live? {t : Lifecycle.Step} (h : r.live? t = some r') :
    ∃ life, r.life.step? t = some life ∧ r' = { r with life := life } := by
  obtain ⟨life, hstep, rfl⟩ := Option.map_eq_some_iff.1 h
  exact ⟨life, hstep, rfl⟩

/-- The relation holds of what the function computes. -/
theorem moves_of_step? (h : r.step? s = some r') : r.outcome = none ∧ Moves r s r' := by
  obtain ⟨houtcome, hmove⟩ := Option.ite_none_right_eq_some.1 h
  refine ⟨houtcome, ?_⟩
  cases s with
  | watch =>
    obtain ⟨life, hstep, rfl⟩ := exists_of_live? hmove
    exact .live rfl (by decide) hstep (fun h => nomatch h)
  | bind limit =>
    obtain ⟨listener, hopen, hbound⟩ := Option.bind_eq_some_iff.1 hmove
    obtain ⟨bound, hlive, ⟨⟩⟩ := Option.bind_eq_some_iff.1 hbound
    obtain ⟨life, hstep, rfl⟩ := exists_of_live? hlive
    exact .bind hopen hstep
  | subscribe =>
    obtain ⟨life, hstep, rfl⟩ := exists_of_live? hmove
    exact .live rfl (by decide) hstep (fun h => nomatch h)
  | serve =>
    obtain ⟨life, hstep, rfl⟩ := exists_of_live? hmove
    exact .live rfl (by decide) hstep (fun h => nomatch h)
  | signal =>
    obtain ⟨life, hstep, rfl⟩ := exists_of_live? hmove
    exact .live rfl (by decide) hstep (fun h => nomatch h)
  | look =>
    obtain ⟨looked, hlive, rfl⟩ := Option.map_eq_some_iff.1 hmove
    obtain ⟨life, hstep, rfl⟩ := exists_of_live? hlive
    by_cases hstopped : life.phase = .stopped
    · rw [closed, if_pos hstopped]
      exact .hear hstep hstopped
    · rw [closed, if_neg hstopped]
      exact .live rfl (by decide) hstep fun _ => hstopped
  | arrive =>
    obtain ⟨hqueues, ⟨⟩⟩ := Option.ite_none_right_eq_some.1 hmove
    exact .arrive hqueues
  | takeSlot =>
    obtain ⟨hphase, ⟨⟩⟩ := Option.ite_none_right_eq_some.1 hmove
    exact .takeSlot hphase
  | accept =>
    obtain ⟨hphase, hadmit⟩ := Option.ite_none_right_eq_some.1 hmove
    obtain ⟨client, hnext, rfl⟩ := Option.map_eq_some_iff.1 hadmit
    exact .accept hphase hnext
  | fail =>
    obtain ⟨⟨hphase, -⟩, ⟨⟩⟩ := Option.ite_none_right_eq_some.1 hmove
    exact .fail hphase
  | finish client how =>
    obtain ⟨task, hfind, rfl⟩ := Option.map_eq_some_iff.1 hmove
    have hclient : task.client = client := by simpa using List.find?_some hfind
    subst hclient
    exact .finish how (List.mem_of_find?_eq_some hfind)
  | rest =>
    obtain ⟨hphase, hlook⟩ := Option.ite_none_right_eq_some.1 hmove
    obtain rfl := Option.some.inj hlook
    cases hidle : r.tracking.isIdle tracker with
    | true => exact .idle hphase hidle
    | false => exact .busy hphase hidle
  | giveUp =>
    obtain ⟨hphase, ⟨⟩⟩ := Option.ite_none_right_eq_some.1 hmove
    exact .giveUp hphase

/-- **What every step carries on holds after a run.** -/
theorem run?_induction {P : List Step → ServerRun → Prop} (hstart : P [] r)
    (hstep : ∀ done s r₁ r₂, P done r₁ → r₁.outcome = none → Moves r₁ s r₂ → P (done ++ [s]) r₂)
    (hrun : r.run? steps = some r') : P steps r' := by
  refine Counting.foldlM_induction hstart ?_ hrun
  intro done s r₁ r₂ hdone hs
  obtain ⟨houtcome, hmoves⟩ := moves_of_step? hs
  exact hstep done s r₁ r₂ hdone houtcome hmoves

/-! ### The tracker and those who are served -/

/-- **What is so of the tracker of a server** that has given out so many guards, when the guards of
some of these are held. -/
structure Counts (n : Nat) (served : List Nat) (t : Tracking) : Prop where
  length_guards : t.guards.length = n
  /-- Who is being served has a guard on the counter of the server. -/
  held : ∀ i ∈ served, t.countedBy? i = some (t.counter tracker)
  /-- No other guard is on this counter. -/
  openCount_eq : t.openCount (t.counter tracker) = served.length
  balanced : t.Balanced
  /-- The identifiers were given out one after the other, as far as 64 bits go. -/
  ids : t.guards.map Guard.id = (List.range' 1 n).map (· % 2 ^ 64)
  nextId_eq : t.nextId = (n + 1) % 2 ^ 64

namespace Counts

theorem start : Counts 0 [] Tracking.start :=
  ⟨rfl, (fun _ h => nomatch h), rfl, Tracking.balanced_start, rfl, rfl⟩

/-- A guard that is given out is held by the client that has just been admitted. -/
theorem track (h : Counts n served t) :
    Counts (n + 1) (served ++ [n]) (t.track tracker).2 where
  length_guards := by
    rw [← h.length_guards]
    exact List.length_append
  held := by
    intro i hi
    show (t.track tracker).2.countedBy? i = some (t.counter tracker)
    rw [Tracking.countedBy?_track, h.length_guards]
    split
    · rfl
    · next hne =>
      rcases List.mem_append.1 hi with hi | hi
      · exact h.held i hi
      · exact absurd (List.mem_singleton.1 hi) hne
  openCount_eq := by
    show (t.track tracker).2.openCount (t.counter tracker) = (served ++ [n]).length
    rw [Tracking.openCount_track, if_pos rfl, h.openCount_eq, List.length_append]
    rfl
  balanced := h.balanced.step (.track tracker)
  ids := by
    have hadded : (t.track tracker).2.guards.map Guard.id = t.guards.map Guard.id ++ [t.nextId] :=
      List.map_append
    rw [hadded, h.ids, h.nextId_eq, List.range'_1_concat, List.map_append, Nat.add_comm n 1]
    rfl
  nextId_eq := by
    calc (t.track tracker).2.nextId
        = (t.nextId + 1) % 2 ^ 64 := Tracking.nextId_step t (.track tracker)
      _ = (n + 1 + 1) % 2 ^ 64 := by rw [h.nextId_eq, Nat.mod_add_mod]

/-- A guard that is dropped is that of one client, and the others keep theirs. -/
theorem drop (h : Counts n served t) (hnodup : served.Nodup) (hclient : client ∈ served) :
    Counts n (served.erase client) (t.drop client).2 where
  length_guards := Tracking.length_drop.trans h.length_guards
  held := by
    intro i hi
    obtain ⟨hne, hi⟩ := hnodup.mem_erase_iff.1 hi
    rw [Tracking.countedBy?_drop, if_neg hne.symm, Tracking.counter_drop]
    exact h.held i hi
  openCount_eq := by
    -- before the drop there was one more, and the lengths differ by one as well
    have hopen := h.openCount_eq
    rw [Tracking.openCount_drop (i := client), if_pos (h.held client hclient)] at hopen
    rw [Tracking.counter_drop, List.length_erase_of_mem hclient, ← hopen]
    exact (Nat.add_sub_cancel _ 1).symm
  balanced := h.balanced.step (.drop client)
  ids := Tracking.map_id_drop.trans h.ids
  nextId_eq := Tracking.nextId_drop.trans h.nextId_eq

/-- The count is exact however many guards have been given out, if those who are served are not more
than 64 bits can count. -/
theorem activeCount_eq (h : Counts n served t) (hlt : served.length < 2 ^ 64) :
    t.activeCount tracker = served.length := by
  unfold Tracking.activeCount
  rw [h.balanced, h.openCount_eq]
  exact UInt64.toNat_ofNat_of_lt' hlt

/-- The identifier of a client tells its place in the order of admission. -/
theorem guard_eq (h : Counts n served t) (hclient : client ∈ served) :
    t.guards[client]? = some ⟨t.counter tracker, (client + 1) % 2 ^ 64, true⟩ := by
  -- the counter is known from the guard that is held, the identifier from the list of all of them
  obtain ⟨id, hguard⟩ := Tracking.countedBy?_eq_some_iff.1 (h.held client hclient)
  have hid : (t.guards.map Guard.id)[client]? = some id := by
    rw [List.getElem?_map, hguard]
    rfl
  rw [h.ids, List.getElem?_map, Option.map_eq_some_iff] at hid
  obtain ⟨place, hplace, rfl⟩ := hid
  obtain ⟨_, rfl⟩ := List.getElem?_eq_some_iff.1 hplace
  rw [hguard, List.getElem_range', Nat.one_mul, Nat.add_comm]

end Counts

/-! ### The invariant -/

/-- The task of a client. -/
def taskOf (client : Nat) : ServerTask := ⟨client, client⟩

theorem taskOf_injective : Function.Injective taskOf := by
  intro a b h
  exact congrArg ServerTask.client h

/-- What is told of a server whose run has ended. -/
def Told (r : ServerRun) : Option Outcome → Prop
  | none => True
  | some .idle => r.life.phase = .stopped ∧ r.listener.running = []
  | some (.abandoned count) =>
    r.life.phase = .stopped ∧ count = r.listener.running.length

theorem told_of_going (h : r.outcome = none) : r.Told r.outcome := by
  rw [h]
  trivial

/-- **What is so of a server that has admitted so many clients.** -/
structure Sound (n : Nat) (r : ServerRun) : Prop where
  /-- The first clients to arrive have been admitted, each into a slot. -/
  slots : r.listener.Sound r.listener.limit (List.range n)
  limit_le : r.listener.limit ≤ Listener.maxSlots
  /-- The listener is closed just if the server has stopped. -/
  closed_iff : r.listener.stopped = true ↔ r.life.phase = .stopped
  letsGo : r.listener.LetsGo
  unbound : r.life.IsUnbound → r.listener = unbound
  /-- Who is being served has a task, and the guard with its own number. -/
  tasks_eq : r.tasks = r.listener.running.map taskOf
  /-- The tracker counts those who are being served. -/
  counts : Counts n r.listener.running r.tracking
  told : r.Told r.outcome

theorem sound_start : Sound 0 start where
  slots := ⟨rfl, rfl, rfl, List.Sublist.refl _⟩
  limit_le := Nat.zero_le _
  closed_iff := by decide
  letsGo := fun _ => rfl
  unbound := fun _ => rfl
  tasks_eq := rfl
  counts := .start
  told := trivial

namespace Sound

theorem nodup (h : Sound n r) : r.listener.running.Nodup :=
  List.Nodup.sublist h.slots.served List.nodup_range

theorem length_le_limit (h : Sound n r) : r.listener.running.length ≤ r.listener.limit := by
  rw [← h.slots.tracked_eq]
  exact h.slots.tracked_le_limit

/-- **The tracker counts just the connections that the listener serves.** There are never more of
them than slots, so the counter does not wrap around. -/
theorem activeCount_eq (h : Sound n r) :
    r.tracking.activeCount tracker = r.listener.running.length := by
  apply h.counts.activeCount_eq
  calc r.listener.running.length
      ≤ r.listener.limit := h.length_le_limit
    _ ≤ Listener.maxSlots := h.limit_le
    _ < 2 ^ 64 := by decide

theorem isIdle_iff (h : Sound n r) :
    r.tracking.isIdle tracker = true ↔ r.listener.running = [] := by
  unfold Tracking.isIdle
  rw [h.activeCount_eq, beq_iff_eq, List.length_eq_zero_iff]

/-- A server that is still to bind its address has admitted nobody. -/
theorem eq_zero_of_isUnbound (h : Sound n r) (hunbound : r.life.IsUnbound) : n = 0 := by
  have horder := h.slots.order
  rw [h.unbound hunbound] at horder
  exact List.length_range.symm.trans
    (congrArg List.length (List.append_eq_nil_iff.1 horder).1)

/-- What a step of the listener keeps, unless it closes it. -/
theorem listener_step (h : Sound n r) {s : Listener.Step} (hs : s ≠ .stop) :
    (r.listener.step s).Sound (r.listener.step s).limit
        (List.range n ++ (r.listener.admits? s).toList) ∧
      (r.listener.step s).limit ≤ Listener.maxSlots ∧
      ((r.listener.step s).stopped = true ↔ r.life.phase = .stopped) ∧
      (r.listener.step s).LetsGo := by
  rw [Listener.limit_step, Listener.stopped_step, or_iff_left hs]
  exact ⟨h.slots.step s, h.limit_le, h.closed_iff, h.letsGo.step s⟩

/-- A step of the listener that admits nobody and ends no connection. -/
theorem listen (h : Sound n r) {s : Listener.Step} (hs : s = .arrive ∨ s = .takeSlot ∨ s = .fail)
    (hbound : ¬ r.life.IsUnbound) (hgoing : r.outcome = none) : Sound n (r.listen s) := by
  have hrunning : (r.listener.step s).running = r.listener.running := by
    apply Listener.running_step
    · rcases hs with rfl | rfl | rfl <;> decide
    · rintro client how rfl
      rcases hs with hs | hs | hs <;> cases hs
  have hadmits : List.range n ++ (r.listener.admits? s).toList = List.range n := by
    rcases hs with rfl | rfl | rfl <;> exact List.append_nil _
  have hstop : s ≠ .stop := by
    rcases hs with rfl | rfl | rfl <;> decide
  obtain ⟨hslots, hlimit, hclosed, hgone⟩ := h.listener_step hstop
  refine ⟨hadmits ▸ hslots, hlimit, hclosed, hgone, fun hunbound => absurd hunbound hbound, ?_, ?_,
    told_of_going hgoing⟩
  · show r.tasks = (r.listener.step s).running.map taskOf
    rw [hrunning]
    exact h.tasks_eq
  · show Counts n (r.listener.step s).running r.tracking
    rw [hrunning]
    exact h.counts

/-- The client that is admitted gets the next guard, so both have the same number. -/
theorem accept (h : Sound n r) (hbound : ¬ r.life.IsUnbound) (hgoing : r.outcome = none)
    (hnext : r.listener.next? = some client) : Sound (n + 1) (r.withTask client) := by
  -- from here on the client and the number of its guard are one variable
  obtain rfl : client = n := h.slots.next?_eq hnext
  have hrunning := Listener.running_accept hnext
  have hadmits : List.range client ++ (r.listener.admits? .accept).toList =
      List.range (client + 1) := by
    show List.range client ++ r.listener.next?.toList = _
    rw [hnext]
    exact List.range_succ.symm
  obtain ⟨hslots, hlimit, hclosed, hgone⟩ := h.listener_step (s := .accept) (by decide)
  refine ⟨hadmits ▸ hslots, hlimit, hclosed, hgone, fun hunbound => absurd hunbound hbound, ?_, ?_,
    told_of_going hgoing⟩
  · show r.tasks ++ [⟨client, r.tracking.guards.length⟩] =
      (r.listener.step .accept).running.map taskOf
    rw [hrunning, List.map_append, h.tasks_eq, h.counts.length_guards]
    rfl
  · show Counts (client + 1) (r.listener.step .accept).running (r.tracking.track tracker).2
    rw [hrunning]
    exact h.counts.track

theorem mem_tasks_iff (h : Sound n r) {task : ServerTask} :
    task ∈ r.tasks ↔ ∃ client ∈ r.listener.running, taskOf client = task := by
  rw [h.tasks_eq, List.mem_map]

/-- A task that ends takes its slot and its guard with it, however it ends. -/
theorem finish (h : Sound n r) (hgoing : r.outcome = none) (hclient : client ∈ r.listener.running)
    (how : Listener.Ending) : Sound n (r.withoutTask (taskOf client) how) := by
  have hrunning : (r.listener.step (.finish client how)).running =
      r.listener.running.erase client := Listener.running_finish _ client how
  obtain ⟨hslots, hlimit, hclosed, hgone⟩ :=
    h.listener_step (s := .finish client how) (by simp)
  refine ⟨List.append_nil (List.range n) ▸ hslots, hlimit, hclosed, hgone, ?_, ?_, ?_,
    told_of_going hgoing⟩
  · intro hunbound
    -- nobody is served before an address is bound
    rw [h.unbound hunbound] at hclient
    cases hclient
  · show r.tasks.erase (taskOf client) =
      (r.listener.step (.finish client how)).running.map taskOf
    rw [hrunning, h.tasks_eq, List.map_erase taskOf_injective]
  · show Counts n (r.listener.step (.finish client how)).running (r.tracking.drop client).2
    rw [hrunning]
    exact h.counts.drop h.nodup hclient

/-- A server that hears of a request lets go of the slot that it holds. -/
theorem hear (h : Sound n r) {life : Lifecycle} (hgoing : r.outcome = none)
    (hstopped : life.phase = .stopped) :
    Sound n { r with life := life, listener := r.listener.step .stop } := by
  refine ⟨?_, ?_, iff_of_true rfl hstopped, h.letsGo.step .stop, ?_, ?_, ?_, told_of_going hgoing⟩
  · show (r.listener.step .stop).Sound (r.listener.step .stop).limit (List.range n)
    rw [Listener.limit_step]
    exact h.slots.stop
  · exact (Listener.limit_step r.listener .stop).trans_le h.limit_le
  · rintro (hphase | hphase) <;> cases hstopped.symm.trans hphase
  · show r.tasks = (r.listener.step .stop).running.map taskOf
    rw [Listener.running_stop]
    exact h.tasks_eq
  · show Counts n (r.listener.step .stop).running r.tracking
    rw [Listener.running_stop]
    exact h.counts

/-- A step of the life that leaves the listener as it is. -/
theorem live (h : Sound n r) {s : Lifecycle.Step} {life : Lifecycle} (hgoing : r.outcome = none)
    (hstep : r.life.step? s = some life) (hunheard : s = .receive → life.phase ≠ .stopped) :
    Sound n { r with life := life } := by
  refine ⟨h.slots, h.limit_le, ?_, h.letsGo, ?_, h.tasks_eq, h.counts, told_of_going hgoing⟩
  · show r.listener.stopped = true ↔ life.phase = .stopped
    rw [Lifecycle.stopped_iff_of_step? hstep hunheard]
    exact h.closed_iff
  · intro hunbound
    exact h.unbound (Lifecycle.isUnbound_of_step? hstep hunbound)

/-- The listener that is opened takes the place of none. -/
theorem bind (h : Sound n r) {limit : Nat} {listener : Listener} {life : Lifecycle}
    (hgoing : r.outcome = none) (hopen : Listener.open? limit = some listener)
    (hstep : r.life.step? .bind = some life) :
    Sound n { r with life := life, listener := listener } := by
  obtain ⟨hwatching, hbound⟩ := Lifecycle.isUnbound_of_bind hstep
  have hunbound : r.life.IsUnbound := .inr hwatching
  have hnobody : r.listener.running = [] := by
    rw [h.unbound hunbound]
    rfl
  obtain ⟨hlimit, -⟩ := Option.ite_none_right_eq_some.1 hopen
  -- nobody has been admitted, which is the invariant of a listener that has just been opened
  obtain rfl := h.eq_zero_of_isUnbound hunbound
  have hslots := Listener.sound_of_open? hopen
  obtain rfl := Listener.eq_of_open? hopen
  refine ⟨hslots, hlimit, ?_, fun _ => rfl, ?_, ?_, ?_, told_of_going hgoing⟩
  · exact iff_of_false Bool.false_ne_true (by simp [hbound])
  · rintro (hphase | hphase) <;> cases hbound.symm.trans hphase
  · show r.tasks = []
    rw [h.tasks_eq, hnobody]
    rfl
  · exact hnobody ▸ h.counts

/-- **One step keeps the invariant**, with one more client admitted if it is an admission. -/
theorem moves (h : Sound n r) (hgoing : r.outcome = none) (hmoves : Moves r s r') :
    Sound (n + [s].count .accept) r' := by
  have hbound {phase : Phase} (hphase : r.life.phase = phase)
      (hlate : phase ≠ .created ∧ phase ≠ .watching) : ¬ r.life.IsUnbound := by
    rintro (h | h)
    · exact hlate.1 (hphase.symm.trans h)
    · exact hlate.2 (hphase.symm.trans h)
  cases hmoves with
  | live hs hbind hstep hunheard =>
    -- an admission is no step of the life
    have hcount : [s].count .accept = 0 := by
      cases s <;> first | rfl | cases hs
    rw [hcount]
    exact h.live hgoing hstep hunheard
  | bind hopen hstep => exact h.bind hgoing hopen hstep
  | hear hstep hstopped => exact h.hear hgoing hstopped
  | arrive hqueues =>
    refine h.listen (.inl rfl) ?_ hgoing
    rintro (hphase | hphase) <;> simp [hphase, Phase.queues] at hqueues
  | takeSlot hphase => exact h.listen (.inr (.inl rfl)) (hbound hphase (by decide)) hgoing
  | accept hphase hnext => exact h.accept (hbound hphase (by decide)) hgoing hnext
  | fail hphase => exact h.listen (.inr (.inr rfl)) (hbound hphase (by decide)) hgoing
  | finish how htask =>
    obtain ⟨client, hclient, rfl⟩ := h.mem_tasks_iff.1 htask
    exact h.finish hgoing hclient how
  | idle hphase hidle => exact { h with told := ⟨hphase, h.isIdle_iff.1 hidle⟩ }
  | busy hphase hbusy => exact h
  | giveUp hphase => exact { h with told := ⟨hphase, h.activeCount_eq⟩ }

/-- **A run keeps the invariant.** -/
theorem run (hrun : start.run? steps = some r) : Sound (steps.count .accept) r := by
  refine run?_induction (P := fun done r => Sound (done.count .accept) r) sound_start ?_ hrun
  intro done s r₁ r₂ hdone hgoing hmoves
  rw [List.count_append]
  exact hdone.moves hgoing hmoves

end Sound

/-! ### The number of slots -/

theorem Moves.keeps_limit (hmoves : Moves r s r') (hs : ∀ limit, s ≠ .bind limit) :
    r'.listener.limit = r.listener.limit ∧ (r'.life.IsUnbound → r.life.IsUnbound) := by
  cases hmoves with
  | live _ _ hstep _ => exact ⟨rfl, Lifecycle.isUnbound_of_step? hstep⟩
  | bind _ _ => exact absurd rfl (hs _)
  | hear hstep _ =>
    exact ⟨Listener.limit_step r.listener .stop, Lifecycle.isUnbound_of_step? hstep⟩
  | arrive _ => exact ⟨Listener.limit_step r.listener .arrive, id⟩
  | takeSlot _ => exact ⟨Listener.limit_step r.listener .takeSlot, id⟩
  | accept _ _ => exact ⟨Listener.limit_step r.listener .accept, id⟩
  | fail _ => exact ⟨Listener.limit_step r.listener .fail, id⟩
  | finish how _ => exact ⟨Listener.limit_step r.listener (.finish _ how), id⟩
  | idle _ _ => exact ⟨rfl, id⟩
  | busy _ _ => exact ⟨rfl, id⟩
  | giveUp _ => exact ⟨rfl, id⟩

theorem Moves.limit_of_bind {limit : Nat} (hmoves : Moves r (.bind limit) r') :
    r.life.IsUnbound ∧ ¬ r'.life.IsUnbound ∧ r'.listener.limit = limit := by
  cases hmoves with
  | live hs hbind _ _ => exact absurd (Option.some.inj hs).symm hbind
  | bind hopen hstep =>
    obtain ⟨hwatching, hbound⟩ := Lifecycle.isUnbound_of_bind hstep
    refine ⟨.inr hwatching, ?_, ?_⟩
    · rintro (hphase | hphase) <;> cases hbound.symm.trans hphase
    · rw [Listener.eq_of_open? hopen]

/-- An address is bound once, so the number of slots is the one that it was bound with. -/
theorem limit_of_bind {limit : Nat} (hrun : start.run? steps = some r)
    (hbind : .bind limit ∈ steps) : r.listener.limit = limit := by
  -- the induction has to know as well that no address was bound as long as the server is unbound
  suffices h : (r.life.IsUnbound → ∀ limit, .bind limit ∉ steps) ∧
      ∀ limit, .bind limit ∈ steps → r.listener.limit = limit from h.2 limit hbind
  clear hbind
  refine run?_induction (P := fun done r => (r.life.IsUnbound → ∀ limit, .bind limit ∉ done) ∧
    ∀ limit, .bind limit ∈ done → r.listener.limit = limit) (by simp) ?_ hrun
  rintro done s r₁ r₂ ⟨hunbound, hlimit⟩ - hmoves
  by_cases hs : ∃ limit, s = .bind limit
  · obtain ⟨bound, rfl⟩ := hs
    obtain ⟨hbefore, hafter, heq⟩ := hmoves.limit_of_bind
    refine ⟨fun h => absurd h hafter, ?_⟩
    intro limit hmem
    rcases List.mem_append.1 hmem with hmem | hmem
    · exact absurd hmem (hunbound hbefore limit)
    · cases List.mem_singleton.1 hmem
      exact heq
  · -- what is not the binding of an address adds nothing to either side
    have hother : ∀ limit, s ≠ .bind limit := fun limit h => hs ⟨limit, h⟩
    obtain ⟨heq, hkeeps⟩ := hmoves.keeps_limit hother
    have hmem (limit : Nat) : .bind limit ∈ done ++ [s] ↔ .bind limit ∈ done := by
      simp [(hother limit).symm]
    simp only [hmem, heq]
    exact ⟨fun h => hunbound (hkeeps h), hlimit⟩

/-! ### Main result -/

/-- **Slots, tasks and guards of a server agree.** After any steps of a server, however many clients
it has had:

* the number of slots is the one that the address was bound with, and the slots that are free, those
  in use and the one that may have been taken for a client still to come add up to it;
* the tracker counts just the connections that are being served, which are no more than the slots,
  and the listener counts them as well;
* the first clients to arrive have been admitted, in this order, and each who is being served has a
  task. Its guard is held, on the counter of the server, and its identifier is the place of the
  client in the order of admission, as far as 64 bits go;
* if the run has ended, then after a request was heard, with no connection open or with as many as
  are told. -/
theorem connections_run (hrun : start.run? steps = some r) :
    ((∀ limit, .bind limit ∈ steps → r.listener.limit = limit) ∧
      r.listener.available + r.listener.running.length + r.listener.held = r.listener.limit) ∧
    (r.tracking.activeCount tracker = r.listener.running.length ∧
      r.listener.tracked = r.listener.running.length ∧
      r.listener.running.length ≤ r.listener.limit) ∧
    (List.range (steps.count .accept) ++ r.listener.waiting = List.range r.listener.arrived ∧
      r.tasks.map ServerTask.client = r.listener.running ∧ r.listener.running.Nodup ∧
      ∀ task ∈ r.tasks, task.client < steps.count .accept ∧ r.tracking.guards[task.guard]? =
        some ⟨r.tracking.counter tracker, (task.client + 1) % 2 ^ 64, true⟩) ∧
    ∀ outcome, r.outcome = some outcome → r.life.phase = .stopped ∧
      (outcome = .idle ∧ r.listener.running = [] ∨
        outcome = .abandoned r.listener.running.length) := by
  have hsound : Sound (steps.count .accept) r := .run hrun
  refine ⟨⟨fun limit => limit_of_bind hrun, hsound.slots.slots⟩,
    ⟨hsound.activeCount_eq, hsound.slots.tracked_eq, hsound.length_le_limit⟩,
    ⟨hsound.slots.order, ?_, hsound.nodup, ?_⟩, ?_⟩
  · rw [hsound.tasks_eq, List.map_map]
    exact List.map_id _
  · intro task htask
    obtain ⟨client, hclient, rfl⟩ := hsound.mem_tasks_iff.1 htask
    exact ⟨List.mem_range.1 (hsound.slots.served.subset hclient), hsound.counts.guard_eq hclient⟩
  · intro outcome houtcome
    have htold := hsound.told
    rw [houtcome] at htold
    cases outcome with
    | idle => exact ⟨htold.1, .inl ⟨rfl, htold.2⟩⟩
    | abandoned count => exact ⟨htold.1, .inr (congrArg Outcome.abandoned htold.2)⟩

end ServerRun

end ReflectCalc
