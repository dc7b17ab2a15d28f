import Mathlib.Data.List.Perm.Basic
import ReflectCalc.Proofs.Service.Run

/-!
# The end of a server

A request to stop has to be heard, and then the connections that are open have to end. Which requests
are heard is decided by the life of the server alone (`ServerRun.life_run`), so it is as
`Lifecycle.Listening` has it.

* `ServerRun.shutdown_run` — a request that comes after the subscription ends the admission of
  clients, and from then on connections only end;
* `ServerRun.drain_run` — once all of them have ended, in whatever order, the run of the server has
  ended when it looks next.

The first follows from what one step can do to a server that has stopped (`ServerRun.Moves.stopped`).
For the second the connections are ended one after the other, and the invariant
`ServerRun.Sound` of the runs says what is left.
-/

namespace ReflectCalc.ServerRun

variable {r r' : ServerRun} {s : Step} {steps before after : List Step} {n client : Nat}

/-! ### Shutdown -/

/-- What a step is in the life of the server, and that the others leave it as it is. -/
theorem Moves.life (hmoves : Moves r s r') :
    Lifecycle.run? r.life s.life?.toList = some r'.life := by
  have hone {t : Lifecycle.Step} {life : Lifecycle} (h : r.life.step? t = some life) :
      Lifecycle.run? r.life [t] = some life := by
    rw [Lifecycle.run?_cons, h]
    rfl
  cases hmoves with
  | live hs _ hstep _ =>
    rw [hs]
    exact hone hstep
  | bind _ hstep => exact hone hstep
  | hear hstep _ => exact hone hstep
  | _ => rfl

/-- **The life of a server is a life of its own**, of which the connections take no notice. -/
theorem life_run (hrun : start.run? steps = some r) :
    Lifecycle.start.run? (steps.filterMap Step.life?) = some r.life := by
  refine run?_induction
    (P := fun done r => Lifecycle.start.run? (done.filterMap Step.life?) = some r.life) rfl ?_ hrun
  intro done s r₁ r₂ hdone _ hmoves
  have hlast : [s].filterMap Step.life? = s.life?.toList := by
    cases h : s.life? <;> simp [h]
  rw [List.filterMap_append, hlast, Lifecycle.run?_append, hdone]
  exact hmoves.life

/-- A server that has stopped admits nobody, and only ends connections. -/
theorem Moves.stopped (hmoves : Moves r s r') (hstopped : r.life.phase = .stopped) :
    s ≠ .accept ∧ r'.life.phase = .stopped ∧ r'.listener.running.Sublist r.listener.running := by
  have hnot {phase : Phase} (hphase : r.life.phase = phase) : phase = .stopped :=
    hphase.symm.trans hstopped
  cases hmoves with
  | live hs _ hstep hunheard =>
    refine ⟨?_, (Lifecycle.stopped_iff_of_step? hstep hunheard).2 hstopped, List.Sublist.refl _⟩
    rintro rfl
    cases hs
  | bind _ hstep => cases hnot (Lifecycle.isUnbound_of_bind hstep).1
  | hear hstep hstill =>
    refine ⟨by decide, hstill, ?_⟩
    show (r.listener.step .stop).running.Sublist r.listener.running
    rw [Listener.running_stop]
  | arrive hqueues => simp [hstopped, Phase.queues] at hqueues
  | takeSlot hphase => cases hnot hphase
  | accept hphase _ => cases hnot hphase
  | fail hphase => cases hnot hphase
  | finish how _ =>
    refine ⟨by simp, hstopped, ?_⟩
    show (r.listener.step (.finish _ how)).running.Sublist r.listener.running
    rw [Listener.running_finish]
    exact List.erase_sublist
  | idle _ _ => exact ⟨by decide, hstopped, List.Sublist.refl _⟩
  | busy _ _ => exact ⟨by decide, hstopped, List.Sublist.refl _⟩
  | giveUp _ => exact ⟨by decide, hstopped, List.Sublist.refl _⟩

theorem run_of_stopped (hstopped : r.life.phase = .stopped) (hrun : r.run? steps = some r') :
    .accept ∉ steps ∧ r'.life.phase = .stopped ∧
      r'.listener.running.Sublist r.listener.running := by
  refine run?_induction (P := fun done r' => .accept ∉ done ∧ r'.life.phase = .stopped ∧
    r'.listener.running.Sublist r.listener.running)
    ⟨by simp, hstopped, List.Sublist.refl _⟩ ?_ hrun
  rintro done s r₁ r₂ ⟨hdone, hstopped, hserved⟩ - hmoves
  obtain ⟨hs, hstill, hfewer⟩ := hmoves.stopped hstopped
  refine ⟨?_, hstill, hfewer.trans hserved⟩
  simp [hdone, hs.symm]

/-- **A request to stop that comes after the subscription ends the admission of clients.** After any
steps among which the server subscribes, it has stopped, or will when it looks at the channel, just
if a signal came after that. Once it has stopped, its listener is closed and holds no slot, nobody is
admitted any more, and only those are served who were served before. -/
theorem shutdown_run (hrun : start.run? (before ++ .subscribe :: after) = some r) :
    ((r.life.phase = .stopped ∨ r.life.isPending = true) ↔ .signal ∈ after) ∧
    (r.life.phase = .stopped → r.listener.stopped = true ∧ r.listener.held = 0 ∧
      ∀ more r', r.run? more = some r' → .accept ∉ more ∧ r'.life.phase = .stopped ∧
        r'.listener.running.Sublist r.listener.running) := by
  constructor
  · -- the channel is a matter of the life alone, where the signals are those of the server
    have hlife := life_run hrun
    rw [List.filterMap_append, List.filterMap_cons_some (rfl : Step.life? .subscribe = _)] at hlife
    rw [(Lifecycle.listening_of_run? hlife).heard_iff, List.count_pos_iff, List.mem_filterMap]
    constructor
    · rintro ⟨s, hs, hlife⟩
      cases s <;> first | exact hs | cases hlife
    · intro hsignal
      exact ⟨.signal, hsignal, rfl⟩
  · intro hstopped
    have hsound := Sound.run hrun
    have hclosed := hsound.closed_iff.2 hstopped
    refine ⟨hclosed, Listener.held_of_not_holding (hsound.letsGo hclosed), ?_⟩
    intro more r' hmore
    exact run_of_stopped hstopped hmore

/-! ### The last connections -/

/-- A client that is being served can end its connection at any time. -/
theorem step?_finish (h : Sound n r) (hgoing : r.outcome = none)
    (hclient : client ∈ r.listener.running) (how : Listener.Ending) :
    r.step? (.finish client how) = some (r.withoutTask (taskOf client) how) := by
  have hfind : (r.tasks.find? fun task => task.client = client) = some (taskOf client) := by
    rw [h.tasks_eq]
    cases hfound : (r.listener.running.map taskOf).find? fun task => task.client = client with
    | none => simpa [taskOf] using List.find?_eq_none.1 hfound _ (List.mem_map_of_mem hclient)
    | some task =>
      obtain ⟨client', -, rfl⟩ := List.mem_map.1 (List.mem_of_find?_eq_some hfound)
      have hfits := List.find?_some hfound
      exact congrArg (some <| taskOf ·) (of_decide_eq_true hfits)
  show (if r.outcome = none then (r.tasks.find? fun task => task.client = client).map _ else none) = _
  rw [if_pos hgoing, hfind]
  rfl

/-- All connections can end, in any order and in any way. -/
theorem exists_run?_finish (h : Sound n r) (hgoing : r.outcome = none) {order : List Nat}
    (horder : order.Perm r.listener.running) (how : Nat → Listener.Ending) :
    ∃ r', r.run? (order.map fun client => .finish client (how client)) = some r' ∧ Sound n r' ∧
      r'.listener.running = [] ∧ r'.outcome = none ∧ r'.life = r.life := by
  -- on the order, with the server generalized: after the first has ended, the rest of the order
  -- are again those who are being served
  induction order generalizing r with
  | nil => exact ⟨r, rfl, h, List.nil_perm.1 horder, hgoing, rfl⟩
  | cons client order ih =>
    have hclient : client ∈ r.listener.running := horder.subset List.mem_cons_self
    have hrest : order.Perm (r.withoutTask (taskOf client) (how client)).listener.running := by
      show order.Perm (r.listener.step (.finish client (how client))).running
      rw [Listener.running_finish]
      exact (horder.trans (List.perm_cons_erase hclient)).cons_inv
    obtain ⟨r', hrun, hrest⟩ := ih (h.finish hgoing hclient (how client)) hgoing hrest
    refine ⟨r', ?_, hrest⟩
    rw [List.map_cons, run?, List.foldlM_cons, step?_finish h hgoing hclient]
    exact hrun

/-- **A server that has stopped ends once its connections have.** After any steps of a server that has
heard of a request, and whose run has not ended, the connections that are being served can end, in
any order and each in its own way. Then all slots are free again, no connection is counted, and when
the server looks next its run has ended. -/
theorem drain_run (hrun : start.run? steps = some r) (hstopped : r.life.phase = .stopped)
    (hgoing : r.outcome = none) {order : List Nat} (horder : order.Perm r.listener.running)
    (how : Nat → Listener.Ending) :
    ∃ r', r.run? (order.map fun client => .finish client (how client)) = some r' ∧
      r'.listener.available = r'.listener.limit ∧ r'.tasks = [] ∧
      r'.tracking.activeCount tracker = 0 ∧
      r'.step? .rest = some { r' with outcome := some .idle } := by
  have hsound : Sound (steps.count .accept) r := .run hrun
  obtain ⟨r', hfinish, hsound', hnobody, hgoing', hlife⟩ :=
    exists_run?_finish hsound hgoing horder how
  have hslots := hsound'.slots.slots
  have htasks := hsound'.tasks_eq
  have hcount := hsound'.activeCount_eq
  have hclosed := hsound'.closed_iff.2 (hlife ▸ hstopped)
  rw [hnobody, Listener.held_of_not_holding (hsound'.letsGo hclosed)] at hslots
  rw [hnobody] at htasks hcount
  refine ⟨r', hfinish, hslots, htasks, hcount, ?_⟩
  have hidle : r'.tracking.isIdle tracker = true := hsound'.isIdle_iff.2 hnobody
  unfold step? move?
  simp only [hgoing', hlife, hstopped, hidle, if_true]

/-- Two clients are served when the request comes. A third one waits, and is not admitted. -/
example :
    (start.run? [.watch, .bind 3, .subscribe, .serve, .arrive, .takeSlot, .accept, .arrive, .arrive,
      .takeSlot, .accept, .takeSlot, .signal, .look, .finish 1 .late, .rest, .finish 0 .served,
      .rest]).map (fun r => (r.listener.available, r.listener.waiting, r.outcome)) =
        some (3, [2], some .idle) := by
  decide +kernel

end ReflectCalc.ServerRun
