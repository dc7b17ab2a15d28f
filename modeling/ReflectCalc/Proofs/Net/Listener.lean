import Mathlib.Data.List.Basic
import ReflectCalc.Net.Listener

/-!
# The slots of a listener

No slot of a listener is lost and none is given out twice, in whatever order clients arrive, slots
are taken and given back, and connections end.

* `Listener.run` is the listener after some steps, and `Listener.admitted` the clients that are
  admitted on the way, the first one in front;
* `Listener.Sound` is the invariant. It is about a listener and the clients that have been admitted
  so far: the slots add up to the limit, the tracker counts the connections that are being served,
  and those who were admitted and those who wait are together the clients in the order of their
  arrival;
* `Listener.slots_run` is the main result, for every run of a listener that has been opened.

One step keeps the invariant (`Listener.Sound.step`), with one case for each kind of step, and a run
keeps it by induction (`Listener.Sound.run`). What must be so for a client to be admitted is
`Listener.next?_eq_some`, and `Listener.Sound.next?_takeSlot` says that it is enough.
-/

namespace ReflectCalc

namespace Listener

variable {l : Listener} {limit client : Nat} {log : List Nat}

/-! ### Runs -/

/-- The listener after some steps. -/
def run (l : Listener) (steps : List Step) : Listener := steps.foldl step l

/-- The client that a step admits. -/
def admits? (l : Listener) : Step → Option Nat
  | .accept => l.next?
  | _ => none

/-- The clients that are admitted in the course of some steps, the first one in front. -/
def admitted (l : Listener) : List Step → List Nat
  | [] => []
  | s :: steps => (l.admits? s).toList ++ (l.step s).admitted steps

/-- How many slots have been taken for clients that are still to come. -/
def held (l : Listener) : Nat := if l.holding then 1 else 0

theorem held_of_holding (h : l.holding = true) : l.held = 1 := if_pos h

theorem held_of_not_holding (h : l.holding = false) : l.held = 0 := if_neg (by simp [h])

theorem run_cons (l : Listener) (s : Step) (steps : List Step) :
    l.run (s :: steps) = (l.step s).run steps := rfl

theorem run_append (l : Listener) (before after : List Step) :
    l.run (before ++ after) = (l.run before).run after := List.foldl_append

theorem admitted_append (l : Listener) (before after : List Step) :
    l.admitted (before ++ after) = l.admitted before ++ (l.run before).admitted after := by
  induction before generalizing l with
  | nil => rfl
  | cons s before ih =>
    change _ ++ (l.step s).admitted (before ++ after) = (_ ++ (l.step s).admitted before) ++ _
    rw [ih, List.append_assoc]
    rfl

/-! ### Admission -/

/-- A client can be admitted only into a slot that was taken for it, and only the first that
waits. -/
theorem next?_eq_some : l.next? = some client ↔
    l.stopped = false ∧ l.holding = true ∧ ∃ rest, l.waiting = client :: rest := by
  unfold next?
  split
  · next h => simp [h.1, h.2, List.head?_eq_some_iff]
  · next h =>
    constructor
    · intro hnone
      cases hnone
    · rintro ⟨hstopped, hholding, -⟩
      exact absurd ⟨hstopped, hholding⟩ h

theorem admits?_eq_some {s : Step} : l.admits? s = some client ↔
    s = .accept ∧ l.next? = some client := by
  cases s <;> simp [admits?]

/-- Giving a slot back leaves the rest as it is. -/
theorem release_keeps (l : Listener) :
    l.release.arrived = l.arrived ∧ l.release.waiting = l.waiting ∧
      l.release.stopped = l.stopped := by
  unfold release
  split <;> exact ⟨rfl, rfl, rfl⟩

/-- Clients are counted when they arrive and at no other time. -/
theorem arrived_step (l : Listener) (s : Step) :
    (l.step s).arrived = l.arrived + [s].count .arrive := by
  obtain ⟨hrelease, -, -⟩ := l.release_keeps
  cases s with
  | arrive => rfl
  | takeSlot => simp only [step]; split <;> rfl
  | accept => simp only [step]; split <;> rfl
  | fail => exact hrelease
  | cancel => exact hrelease
  | finish client how => simp only [step]; split <;> rfl
  | stop => exact hrelease

theorem arrived_run (l : Listener) (steps : List Step) :
    (l.run steps).arrived = l.arrived + steps.count .arrive := by
  induction steps generalizing l with
  | nil => rfl
  | cons s steps ih =>
    calc ((l.step s).run steps).arrived
        = l.arrived + [s].count .arrive + steps.count .arrive := by rw [ih, arrived_step]
      _ = l.arrived + (s :: steps).count .arrive := by
          rw [Nat.add_assoc, ← List.count_append, List.singleton_append]

/-- A shutdown is received once and for all. -/
theorem stopped_step (l : Listener) (s : Step) :
    (l.step s).stopped = true ↔ l.stopped = true ∨ s = .stop := by
  obtain ⟨-, -, hrelease⟩ := l.release_keeps
  cases s with
  | stop => exact iff_of_true rfl (.inr rfl)
  | arrive => simp [step]
  | takeSlot => simp only [step]; split <;> simp
  | accept => simp only [step]; split <;> simp
  | fail => simp [step, hrelease]
  | cancel => simp [step, hrelease]
  | finish client how => simp only [step]; split <;> simp

theorem stopped_run (l : Listener) (steps : List Step) :
    (l.run steps).stopped = true ↔ l.stopped = true ∨ .stop ∈ steps := by
  induction steps generalizing l with
  | nil => simp [run]
  | cons s steps ih =>
    rw [run_cons, ih, stopped_step, List.mem_cons, or_assoc, @eq_comm _ s]

/-- A listener that has received a shutdown admits nobody. -/
theorem admitted_of_stopped (h : l.stopped = true) (steps : List Step) : l.admitted steps = [] := by
  induction steps generalizing l with
  | nil => rfl
  | cons s steps ih =>
    have hnone : l.admits? s = none := by
      cases s <;> simp [admits?, next?, h]
    change (l.admits? s).toList ++ (l.step s).admitted steps = []
    rw [hnone, ih ((stopped_step l s).2 (.inl h))]
    rfl

/-- A connection that ends is served no more, whatever the ending. -/
theorem running_finish (l : Listener) (client : Nat) (how : Ending) :
    (l.step (.finish client how)).running = l.running.erase client := by
  simp only [step]
  split
  · rfl
  · next hmem => exact (List.erase_of_not_mem hmem).symm

/-! ### The invariant -/

/-- **What is so of a listener after these clients have been admitted.** -/
structure Sound (limit : Nat) (log : List Nat) (l : Listener) : Prop where
  /-- Every slot is free, in use, or taken for a client that is still to come. -/
  slots : l.available + l.running.length + l.held = limit
  /-- The tracker counts the connections that are being served. -/
  tracked_eq : l.tracked = l.running.length
  /-- The clients that were admitted and those that wait are in the order of their arrival. -/
  order : log ++ l.waiting = List.range l.arrived
  /-- Who is being served was admitted, and the order is kept. -/
  served : l.running.Sublist log

/-- What a listener is when it has been opened: all its slots are free, and nothing has happened. -/
theorem eq_of_open? (h : open? limit = some l) :
    l = ⟨limit, limit, false, 0, [], [], 0, false⟩ := by
  unfold open? at h
  split at h
  · exact (Option.some.inj h).symm
  · cases h

theorem sound_of_open? (h : open? limit = some l) : Sound limit [] l := by
  obtain rfl := eq_of_open? h
  exact ⟨rfl, rfl, rfl, List.Sublist.refl _⟩

namespace Sound

/-- A client that arrives waits behind the others. -/
theorem arrive (h : Sound limit log l) : Sound limit log (l.step .arrive) := by
  refine ⟨h.slots, h.tracked_eq, ?_, h.served⟩
  calc log ++ (l.waiting ++ [l.arrived])
      = log ++ l.waiting ++ [l.arrived] := (List.append_assoc ..).symm
    _ = List.range l.arrived ++ [l.arrived] := by rw [h.order]
    _ = List.range (l.arrived + 1) := List.range_succ.symm

/-- A slot goes from the free ones to a client that is still to come. -/
theorem takeSlot (h : Sound limit log l) : Sound limit log (l.step .takeSlot) := by
  simp only [Listener.step]
  split
  · next hfree =>
    obtain ⟨-, hholding, hpos⟩ := hfree
    have hslots := h.slots
    rw [held_of_not_holding hholding] at hslots
    refine ⟨?_, h.tracked_eq, h.order, h.served⟩
    calc l.available - 1 + l.running.length + 1
        = l.available + l.running.length + 0 := by omega
      _ = limit := hslots
  · exact h

/-- A slot that was taken for a client still to come goes back to the free ones. -/
theorem release (h : Sound limit log l) : Sound limit log l.release := by
  unfold Listener.release
  split
  · next hholding =>
    have hslots := h.slots
    rw [held_of_holding hholding] at hslots
    refine ⟨?_, h.tracked_eq, h.order, h.served⟩
    calc l.available + 1 + l.running.length + 0
        = l.available + l.running.length + 1 := by omega
      _ = limit := hslots
  · exact h

/-- A slot goes from the client that was to come to the first one that waits. -/
theorem accept (h : Sound limit log l) :
    Sound limit (log ++ l.next?.toList) (l.step .accept) := by
  simp only [Listener.step]
  split
  · next client hnext =>
    obtain ⟨-, hholding, rest, hwaiting⟩ := next?_eq_some.1 hnext
    have hslots := h.slots
    have horder := h.order
    have hlength : (l.running ++ [client]).length = l.running.length + 1 := List.length_append
    rw [held_of_holding hholding] at hslots
    rw [hwaiting] at horder
    rw [hnext]
    refine ⟨?_, ?_, ?_, h.served.append (List.Sublist.refl [client])⟩
    · calc l.available + (l.running ++ [client]).length + 0
          = l.available + l.running.length + 1 := by rw [hlength]; rfl
        _ = limit := hslots
    · calc l.tracked + 1
          = l.running.length + 1 := by rw [h.tracked_eq]
        _ = (l.running ++ [client]).length := hlength.symm
    · -- the client moves from the front of those who wait to the end of the others
      calc log ++ [client] ++ l.waiting.tail
          = log ++ client :: rest := by simp [hwaiting]
        _ = List.range l.arrived := horder
  · next hnext =>
    rw [hnext]
    exact (List.append_nil log).symm ▸ h

/-- A slot goes from a connection that ends back to the free ones, whatever the ending. -/
theorem finish (h : Sound limit log l) (client : Nat) (how : Ending) :
    Sound limit log (l.step (.finish client how)) := by
  simp only [Listener.step]
  split
  · next hmem =>
    have hslots := h.slots
    have htracked := h.tracked_eq
    -- the connection is one of those that are counted, so neither count falls below zero
    have hpos : 0 < l.running.length := List.length_pos_of_mem hmem
    have hlength : (l.running.erase client).length = l.running.length - 1 :=
      List.length_erase_of_mem hmem
    refine ⟨?_, ?_, h.order, (List.erase_sublist ..).trans h.served⟩
    · calc l.available + 1 + (l.running.erase client).length + l.held
          = l.available + l.running.length + l.held := by omega
        _ = limit := hslots
    · calc l.tracked - 1
          = l.running.length - 1 := by rw [htracked]
        _ = (l.running.erase client).length := hlength.symm
  · exact h

/-- A shutdown only gives a slot back. -/
theorem stop (h : Sound limit log l) : Sound limit log (l.step .stop) := by
  obtain ⟨hslots, htracked, horder, hserved⟩ := h.release
  exact ⟨hslots, htracked, horder, hserved⟩

/-- **One step keeps the invariant**, with the client that it admits put behind the others. -/
theorem step (h : Sound limit log l) (s : Step) :
    Sound limit (log ++ (l.admits? s).toList) (l.step s) := by
  -- only one kind of step admits anybody
  have hnobody : log ++ (none : Option Nat).toList = log := List.append_nil log
  cases s with
  | accept => exact h.accept
  | arrive => exact hnobody.symm ▸ h.arrive
  | takeSlot => exact hnobody.symm ▸ h.takeSlot
  | fail => exact hnobody.symm ▸ h.release
  | cancel => exact hnobody.symm ▸ h.release
  | finish client how => exact hnobody.symm ▸ h.finish client how
  | stop => exact hnobody.symm ▸ h.stop

/-- **A run keeps the invariant.** -/
theorem run (h : Sound limit log l) (steps : List Step) :
    Sound limit (log ++ l.admitted steps) (l.run steps) := by
  induction steps generalizing l log with
  | nil => simpa [admitted, Listener.run] using h
  | cons s steps ih =>
    rw [run_cons, admitted, ← List.append_assoc]
    exact ih (h.step s)

/-- While a client can be admitted there is a slot that no connection uses. -/
theorem running_lt_limit (h : Sound limit log l) (hnext : l.next? = some client) :
    l.running.length < limit := by
  obtain ⟨-, hholding, -⟩ := next?_eq_some.1 hnext
  have hslots := h.slots
  rw [held_of_holding hholding] at hslots
  omega

/-- **A slot that no connection uses can be given to the first client that waits.** It is either
free, or has been taken for a client already. -/
theorem next?_takeSlot (h : Sound limit log l) (hstopped : l.stopped = false)
    (hlt : l.running.length < limit) (hwaiting : l.waiting.head? = some client) :
    (l.step .takeSlot).next? = some client := by
  obtain ⟨rest, hrest⟩ := List.head?_eq_some_iff.1 hwaiting
  have hslots := h.slots
  cases hholding : l.holding with
  | true =>
    have hstep : l.step .takeSlot = l := by simp [Listener.step, hholding]
    rw [hstep]
    exact next?_eq_some.2 ⟨hstopped, hholding, rest, hrest⟩
  | false =>
    rw [held_of_not_holding hholding] at hslots
    have hfree : 0 < l.available := by omega
    have hstep : l.step .takeSlot = { l with holding := true, available := l.available - 1 } :=
      if_pos ⟨hstopped, hholding, hfree⟩
    rw [hstep]
    exact next?_eq_some.2 ⟨hstopped, rfl, rest, hrest⟩

/-- The tracker never counts more connections than there are slots. -/
theorem tracked_le_limit (h : Sound limit log l) : l.tracked ≤ limit := by
  have hslots := h.slots
  have htracked := h.tracked_eq
  omega

end Sound

/-! ### Main result -/

/-- **The slots of a listener are neither lost nor given out twice.** After any steps of a listener
that was opened with a limit, whatever their order:

* the slots that are free, those in use and the one that may have been taken for a client still to
  come are together as many as the limit;
* the tracker counts the connections that are being served, and these are no more than the limit;
* the clients that have been admitted and those that wait are together all that have arrived, each
  once and in the order of their arrival, and who is being served is one of the former;
* a step admits a client only if fewer connections than the limit were being served and this client
  was the first that waited, and if this is so the client can be admitted, unless a shutdown has been
  received;
* a connection that ends is served no more, whatever the ending;
* once a shutdown has been received nobody is admitted any more. -/
theorem slots_run {limit : Nat} {l : Listener} (hopen : open? limit = some l)
    (steps : List Step) :
    (l.run steps).available + (l.run steps).running.length + (l.run steps).held = limit ∧
    ((l.run steps).tracked = (l.run steps).running.length ∧ (l.run steps).tracked ≤ limit) ∧
    (l.admitted steps ++ (l.run steps).waiting = List.range (steps.count .arrive) ∧
      (l.run steps).running.Sublist (l.admitted steps)) ∧
    (∀ s client, (l.run steps).admits? s = some client →
      (l.run steps).running.length < limit ∧ (l.run steps).waiting.head? = some client) ∧
    (.stop ∉ steps → ∀ client, (l.run steps).running.length < limit →
      (l.run steps).waiting.head? = some client →
      l.admitted (steps ++ [.takeSlot, .accept]) = l.admitted steps ++ [client]) ∧
    (∀ client how, (l.run (steps ++ [.finish client how])).running
      = (l.run steps).running.erase client) ∧
    ∀ more, l.admitted (steps ++ .stop :: more) = l.admitted steps := by
  have hsound : Sound limit (l.admitted steps) (l.run steps) := (sound_of_open? hopen).run steps
  have harrived : l.arrived = 0 := by rw [eq_of_open? hopen]
  have hstopped : l.stopped = false := by rw [eq_of_open? hopen]
  refine ⟨hsound.slots, ⟨hsound.tracked_eq, hsound.tracked_le_limit⟩, ⟨?_, hsound.served⟩,
    fun s client hadmits => ?_, fun hstop client hlt hwaiting => ?_, fun client how => ?_,
    fun more => ?_⟩
  · rw [hsound.order, arrived_run, harrived, Nat.zero_add]
  · obtain ⟨-, hnext⟩ := admits?_eq_some.1 hadmits
    obtain ⟨-, -, rest, hwaiting⟩ := next?_eq_some.1 hnext
    exact ⟨hsound.running_lt_limit hnext, by rw [hwaiting, List.head?_cons]⟩
  · have hgoing : (l.run steps).stopped = false := by
      rw [Bool.eq_false_iff, ne_eq, stopped_run, hstopped]
      simpa using hstop
    have hnext := hsound.next?_takeSlot hgoing hlt hwaiting
    rw [admitted_append]
    change _ ++ ([] ++ (((l.run steps).step .takeSlot).next?.toList ++ [])) = _
    rw [hnext]
    rfl
  · rw [run_append]
    exact running_finish _ client how
  · have hstopped' : ((l.run steps).step .stop).stopped = true := rfl
    rw [admitted_append]
    change l.admitted steps ++ ([] ++ ((l.run steps).step .stop).admitted more) = l.admitted steps
    rw [admitted_of_stopped hstopped', List.append_nil, List.append_nil]

/-- Of three clients the first has met with a crash, the second is being served, and a slot has been
taken for the third after accepting has failed once. -/
theorem slots_run_third_client :
    ∃ l steps, open? 2 = some l ∧ (l.run steps).admits? .accept = some 2 ∧
      (l.run steps).available + (l.run steps).running.length + (l.run steps).held = 2 ∧
      (l.run steps).tracked = 1 ∧
      l.admitted steps ++ (l.run steps).waiting = [0, 1, 2] ∧
      ((l.run steps).running.length < 2 ∧ (l.run steps).waiting.head? = some 2) ∧
      l.admitted (steps ++ [.takeSlot, .accept]) = [0, 1, 2] ∧
      (l.run (steps ++ [.finish 1 .late])).running = [] ∧
      l.admitted (steps ++ .stop :: [.takeSlot, .accept]) = [0, 1] := by
  let steps : List Step := [.arrive, .takeSlot, .accept, .arrive, .arrive, .takeSlot, .fail,
    .takeSlot, .accept, .finish 0 .crashed, .takeSlot]
  obtain ⟨hslots, ⟨htracked, -⟩, ⟨horder, -⟩, hadmits, hcan, hfinish, hstop⟩ :=
    @slots_run 2 ⟨2, 2, false, 0, [], [], 0, false⟩ rfl steps
  exact ⟨_, steps, rfl, by decide, hslots, htracked, horder, hadmits .accept 2 (by decide),
    hcan (by decide) 2 (by decide) (by decide), hfinish 1 .late, hstop [.takeSlot, .accept]⟩

end Listener

end ReflectCalc
