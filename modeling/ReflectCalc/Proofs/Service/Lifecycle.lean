import ReflectCalc.Proofs.Net.Counting
import ReflectCalc.Service.Lifecycle

/-!
# Which requests to stop a server hears

Signals are turned into requests to stop before the server subscribes to the channel on which they
are sent, and the channel forgets what is sent while nobody listens. So it is the place of a signal
among the steps of the server that decides whether the server hears of it.

* `Lifecycle.Moves` lists, as a relation, what each step can do, and `Lifecycle.step?_eq_some_iff`
  says that this is `Lifecycle.step?`;
* `Lifecycle.heard_iff_signal_after_subscribe` is the main result: a server that has subscribed
  hears of a request just if one was sent after that;
* `Lifecycle.requested_not_heard` is a run in which a request is lost.

Two invariants carry the argument, one for each side of the subscription, and both are led along a
run by `Lifecycle.run?_induction`. Until then nothing has happened to the channel
(`Lifecycle.Moves.channel_eq_new`). From then on the channel has counted the signals and the server
stands before the first of them, or has stopped because of one (`Lifecycle.Listening`).
-/

namespace ReflectCalc

namespace Lifecycle

variable {l l' : Lifecycle} {s : Step} {before after steps : List Step} {n : Nat}

/-! ### Steps as a relation -/

/-- What a step can do to a server. -/
inductive Moves (l : Lifecycle) : Step → Lifecycle → Prop
  | watch (hphase : l.phase = .created) : Moves l .watch { l with phase := .watching }
  | bind (hphase : l.phase = .watching) : Moves l .bind { l with phase := .bound }
  | subscribe (hphase : l.phase = .bound) :
    Moves l .subscribe { l with phase := .subscribed, channel := l.channel.subscribe }
  | accept (hphase : l.phase = .subscribed) : Moves l .accept { l with phase := .accepting }
  | signal (hphase : l.phase ≠ .created) :
    Moves l .signal { l with channel := l.channel.trigger, requested := true }
  /-- The server looks at the channel and hears of a request. -/
  | hear (hphase : l.phase = .accepting) (hpending : l.isPending = true) :
    Moves l .receive { l with phase := .stopped, channel := (l.channel.receive receiver).2 }
  /-- The server looks at the channel and hears nothing. -/
  | idle (hphase : l.phase = .accepting) (hpending : l.isPending = false) : Moves l .receive l

theorem step?_receive (hphase : l.phase = .accepting) :
    l.step? .receive = if l.isPending then
      some { l with phase := .stopped, channel := (l.channel.receive receiver).2 } else some l := by
  unfold step? isPending
  simp only [hphase, if_true]
  obtain ⟨notice, channel⟩ := l.channel.receive receiver
  cases notice <;> rfl

/-- The relation says what the function computes. -/
theorem step?_eq_some_iff : l.step? s = some l' ↔ Moves l s l' := by
  constructor
  · intro h
    cases s with
    | watch =>
      obtain ⟨hphase, ⟨⟩⟩ := Option.ite_none_right_eq_some.1 h
      exact .watch hphase
    | bind =>
      obtain ⟨hphase, ⟨⟩⟩ := Option.ite_none_right_eq_some.1 h
      exact .bind hphase
    | subscribe =>
      obtain ⟨hphase, ⟨⟩⟩ := Option.ite_none_right_eq_some.1 h
      exact .subscribe hphase
    | accept =>
      obtain ⟨hphase, ⟨⟩⟩ := Option.ite_none_right_eq_some.1 h
      exact .accept hphase
    | signal =>
      obtain ⟨hphase, ⟨⟩⟩ := Option.ite_none_left_eq_some.1 h
      exact .signal hphase
    | receive =>
      have hphase : l.phase = .accepting := (Option.ite_none_right_eq_some.1 h).1
      rw [step?_receive hphase] at h
      split at h
      · next hpending =>
        obtain rfl := Option.some.inj h
        exact .hear hphase hpending
      · next hpending =>
        obtain rfl := Option.some.inj h
        exact .idle hphase (Bool.eq_false_iff.2 hpending)
  · intro h
    cases h with
    | watch hphase => exact if_pos hphase
    | bind hphase => exact if_pos hphase
    | subscribe hphase => exact if_pos hphase
    | accept hphase => exact if_pos hphase
    | signal hphase => exact if_neg hphase
    | hear hphase hpending => rw [step?_receive hphase, if_pos hpending]
    | idle hphase hpending => rw [step?_receive hphase, if_neg (Bool.eq_false_iff.1 hpending)]

/-! ### Runs -/

theorem run?_cons (l : Lifecycle) (s : Step) (steps : List Step) :
    l.run? (s :: steps) = (l.step? s).bind fun l' => l'.run? steps := rfl

theorem run?_append (l : Lifecycle) (before after : List Step) :
    l.run? (before ++ after) = (l.run? before).bind fun l' => l'.run? after := by
  induction before generalizing l with
  | nil => rfl
  | cons s before ih =>
    rw [List.cons_append, run?_cons, run?_cons, Option.bind_assoc]
    exact congrArg _ (funext ih)

theorem run?_eq_foldlM (l : Lifecycle) (steps : List Step) : l.run? steps = steps.foldlM step? l := by
  induction steps generalizing l with
  | nil => rfl
  | cons s steps ih =>
    rw [run?_cons, List.foldlM_cons]
    exact congrArg _ (funext ih)

/-- **What every step carries on holds after a run.** The property may speak of the steps taken so
far. -/
theorem run?_induction {P : List Step → Lifecycle → Prop} (hstart : P [] l)
    (hstep : ∀ done s l₁ l₂, P done l₁ → Moves l₁ s l₂ → P (done ++ [s]) l₂)
    (hrun : l.run? steps = some l') : P steps l' := by
  rw [run?_eq_foldlM] at hrun
  refine Counting.foldlM_induction hstart ?_ hrun
  intro done s l₁ l₂ hdone hs
  exact hstep done s l₁ l₂ hdone (step?_eq_some_iff.1 hs)

/-- A request has been sent just if there was a signal. -/
theorem requested_iff (hrun : l.run? steps = some l') :
    l'.requested = true ↔ l.requested = true ∨ .signal ∈ steps := by
  refine run?_induction
    (P := fun done l' => l'.requested = true ↔ l.requested = true ∨ .signal ∈ done)
    (by simp) ?_ hrun
  intro done s l₁ l₂ hdone hmoves
  cases hmoves <;> simp [hdone]

/-! ### Before the subscription -/

/-- The server has not subscribed to the channel. -/
def IsDeaf (l : Lifecycle) : Prop := l.phase = .created ∨ l.phase = .watching ∨ l.phase = .bound

/-- **Nothing happens to a channel to which nobody listens.** -/
theorem Moves.channel_eq_new (hmoves : Moves l s l')
    (hchannel : l.IsDeaf → l.channel = Broadcast.new) (hdeaf : l'.IsDeaf) :
    l'.channel = Broadcast.new := by
  cases hmoves with
  | watch hphase => exact hchannel (.inl hphase)
  | bind hphase => exact hchannel (.inr (.inl hphase))
  | signal _ =>
    change l.channel.trigger = Broadcast.new
    rw [hchannel hdeaf]
    rfl
  | idle _ _ => exact hchannel hdeaf
  -- the others are the subscription and what comes after it
  | subscribe _ => simp [IsDeaf] at hdeaf
  | accept _ => simp [IsDeaf] at hdeaf
  | hear _ _ => simp [IsDeaf] at hdeaf

/-- What there is when the server subscribes. -/
theorem eq_of_run?_subscribe (hrun : start.run? (before ++ .subscribe :: after) = some l) :
    ∃ requested, run? ⟨.subscribed, ⟨0, [some 0]⟩, requested⟩ after = some l := by
  rw [run?_append] at hrun
  obtain ⟨l₀, hbefore, hrest⟩ := Option.bind_eq_some_iff.1 hrun
  obtain ⟨l₁, hsubscribe, hafter⟩ := Option.bind_eq_some_iff.1 hrest
  have hchannel : l₀.IsDeaf → l₀.channel = Broadcast.new :=
    run?_induction (P := fun _ l => l.IsDeaf → l.channel = Broadcast.new) (fun _ => rfl)
      (fun _ _ _ _ hdone hmoves hdeaf => hmoves.channel_eq_new hdone hdeaf) hbefore
  cases step?_eq_some_iff.1 hsubscribe with
  | subscribe hphase =>
    rw [hchannel (.inr (.inr hphase))] at hafter
    exact ⟨l₀.requested, hafter⟩

/-! ### After the subscription -/

/-- **What is so of a server that has subscribed**, when there have been so many signals since. -/
inductive Listening (n : Nat) (l : Lifecycle) : Prop
  /-- The server has heard nothing, and the signals are on the channel. -/
  | attentive (hphase : l.phase = .subscribed ∨ l.phase = .accepting)
    (hchannel : l.channel = ⟨n, [some 0]⟩)
  /-- The server has heard of a signal. -/
  | stopped (hphase : l.phase = .stopped) (hpos : 0 < n)

theorem isPending_iff (hchannel : l.channel = ⟨n, [some 0]⟩) : l.isPending = true ↔ 0 < n := by
  unfold isPending
  rw [hchannel]
  match n with
  | 0 => decide
  | 1 => decide
  | n + 2 =>
    have hlagged : ((⟨n + 2, [some 0]⟩ : Broadcast).receive receiver).1 = .lagged (n + 1) := by
      simp [Broadcast.receive, Broadcast.position?, receiver]
    rw [hlagged]
    simp

/-- A step keeps this, with one more signal counted if it is one. -/
theorem Listening.moves (h : Listening n l) (hmoves : Moves l s l') :
    Listening (n + [s].count .signal) l' := by
  cases h with
  | attentive hphase hchannel =>
    cases hmoves with
    -- the steps up to the subscription have been taken
    | watch h => simp [h] at hphase
    | bind h => simp [h] at hphase
    | subscribe h => simp [h] at hphase
    | accept _ => exact .attentive (.inr rfl) hchannel
    | signal _ =>
      refine .attentive hphase ?_
      change l.channel.trigger = ⟨n + 1, [some 0]⟩
      rw [hchannel]
      rfl
    | hear _ hpending => exact .stopped rfl ((isPending_iff hchannel).1 hpending)
    | idle _ _ => exact .attentive hphase hchannel
  | stopped hphase hpos =>
    cases hmoves with
    -- a server that has stopped can only be asked again, which makes no difference
    | watch h => simp [h] at hphase
    | bind h => simp [h] at hphase
    | subscribe h => simp [h] at hphase
    | accept h => simp [h] at hphase
    | signal _ => exact .stopped hphase (Nat.lt_succ_of_lt hpos)
    | hear h _ => simp [h] at hphase
    | idle _ _ => exact .stopped hphase hpos

/-- The server has heard of a request, or will when it looks at the channel. -/
theorem Listening.heard_iff (h : Listening n l) :
    (l.phase = .stopped ∨ l.isPending = true) ↔ 0 < n := by
  cases h with
  | attentive hphase hchannel =>
    have hnot : l.phase ≠ .stopped := by
      rintro h
      simp [h] at hphase
    rw [isPending_iff hchannel]
    exact or_iff_right hnot
  | stopped hphase hpos => exact iff_of_true (.inl hphase) hpos

theorem listening_of_run? (hrun : start.run? (before ++ .subscribe :: after) = some l) :
    Listening (after.count .signal) l := by
  obtain ⟨requested, hafter⟩ := eq_of_run?_subscribe hrun
  refine run?_induction (P := fun done l => Listening (done.count .signal) l)
    (.attentive (.inl rfl) rfl) ?_ hafter
  intro done s l₁ l₂ hdone hmoves
  rw [List.count_append]
  exact hdone.moves hmoves

/-! ### Main result -/

/-- **A server hears of the requests that are sent after it has subscribed, and of no others.**
After any steps among which the server subscribes:

* a request has been sent just if there was a signal, at whatever time;
* the server has stopped, or has something on the channel that will make it stop, just if there was
  a signal after the subscription;
* if it is accepting clients, the next look at the channel makes it stop just in this case. -/
theorem heard_iff_signal_after_subscribe {before after : List Step} {l : Lifecycle}
    (hrun : start.run? (before ++ .subscribe :: after) = some l) :
    (l.requested = true ↔ .signal ∈ before ∨ .signal ∈ after) ∧
    ((l.phase = .stopped ∨ l.isPending = true) ↔ .signal ∈ after) ∧
    (l.phase = .accepting →
      ∃ l', l.step? .receive = some l' ∧ (l'.phase = .stopped ↔ .signal ∈ after)) := by
  have hheard : (l.phase = .stopped ∨ l.isPending = true) ↔ .signal ∈ after := by
    rw [(listening_of_run? hrun).heard_iff, List.count_pos_iff]
  refine ⟨?_, hheard, fun hphase => ?_⟩
  · rw [requested_iff hrun]
    simp [start]
  · rw [hphase] at hheard
    cases hpending : l.isPending with
    | true =>
      refine ⟨_, step?_eq_some_iff.2 (.hear hphase hpending), ?_⟩
      exact iff_of_true rfl (hheard.1 (.inr hpending))
    | false =>
      refine ⟨l, step?_eq_some_iff.2 (.idle hphase hpending), ?_⟩
      simpa [hphase, hpending] using hheard

/-- A signal that comes before clients are accepted, but after the subscription, is heard. -/
theorem heard_iff_signal_after_subscribe_early :
    ∃ l, start.run? ([.watch, .bind] ++ .subscribe :: [.signal, .accept]) = some l ∧
      (l.phase = .stopped ∨ l.isPending = true) ∧
      ∃ l', l.step? .receive = some l' ∧ l'.phase = .stopped := by
  obtain ⟨-, hheard, hnext⟩ := @heard_iff_signal_after_subscribe [.watch, .bind] [.signal, .accept]
    ⟨.accepting, ⟨1, [some 0]⟩, true⟩ rfl
  obtain ⟨l', hstep, hstopped⟩ := hnext rfl
  exact ⟨_, rfl, hheard.2 (by decide), l', hstep, hstopped.2 (by decide)⟩

/-- **A request can be lost.** The signal comes when the address is being bound. The server accepts
clients from then on, and however often it looks at the channel it hears nothing. -/
theorem requested_not_heard :
    ∃ l, start.run? [.watch, .signal, .bind, .subscribe, .accept] = some l ∧
      l.requested = true ∧ l.phase = .accepting ∧ l.isPending = false ∧
      l.step? .receive = some l :=
  ⟨_, rfl, rfl, rfl, rfl, rfl⟩

end Lifecycle

end ReflectCalc
