/-!
# Broadcast of a signal

A sender and its receivers. The channel keeps one message, the newest; a receiver has a position in
the sequence of all messages, and one that falls behind is told how many it has missed.

* `Broadcast.subscribe`, `Broadcast.trigger` and `Broadcast.drop` change the channel;
* `Broadcast.receive` asks, without waiting, what a receiver is told next;
* `Broadcast.Step` lists what can be done with a channel, and `Broadcast.step` what comes of it.
-/

namespace ReflectCalc

/-- What a receiver is told. -/
inductive Notice where
  /-- There is no such receiver. -/
  | nothing
  /-- There is no message. -/
  | empty
  /-- There is a message. -/
  | signal
  /-- So many messages were missed. -/
  | lagged (missed : Nat)
deriving DecidableEq, Repr

/-- A channel. -/
structure Broadcast where
  /-- How many messages have been sent. -/
  sent : Nat
  /-- How many messages each receiver has behind it, `none` for one that has been dropped. -/
  receivers : List (Option Nat)
deriving DecidableEq, Repr

namespace Broadcast

/-- A channel without receivers. -/
def new : Broadcast := ⟨0, []⟩

/-- How many receivers there are. -/
def receiverCount (b : Broadcast) : Nat := b.receivers.countP Option.isSome

/-- Adds a receiver, which is told only of later messages. -/
def subscribe (b : Broadcast) : Broadcast := { b with receivers := b.receivers ++ [some b.sent] }

/-- Sends a message. Without receivers it is lost. -/
def trigger (b : Broadcast) : Broadcast :=
  if b.receiverCount = 0 then b else { b with sent := b.sent + 1 }

/-- The position of a receiver that has not been dropped. -/
def position? (b : Broadcast) (i : Nat) : Option Nat := (b.receivers[i]?).join

/-- Drops a receiver. Says whether there was one. -/
def drop (b : Broadcast) (i : Nat) : Bool × Broadcast :=
  match b.position? i with
  | some _ => (true, { b with receivers := b.receivers.set i none })
  | none => (false, b)

/-- What a receiver is told next. One that has missed messages is told so first, and then stands
before the newest message. -/
def receive (b : Broadcast) (i : Nat) : Notice × Broadcast :=
  match b.position? i with
  | none => (.nothing, b)
  | some p =>
    if b.sent ≤ p then (.empty, b)
    else if b.sent = p + 1 then
      (.signal, { b with receivers := b.receivers.set i (some b.sent) })
    else
      (.lagged (b.sent - 1 - p), { b with receivers := b.receivers.set i (some (b.sent - 1)) })

/-! ### Steps -/

/-- What can be done with a channel. The sender can be cloned, and all clones send on the one
channel, so it makes no difference through which of them a receiver is added or a message sent. -/
inductive Step where
  /-- A receiver is added through a clone of the sender. -/
  | subscribe (clone : Nat)
  /-- A message is sent through a clone of the sender. -/
  | trigger (clone : Nat)
  /-- A receiver is dropped. -/
  | drop (receiver : Nat)
  /-- A receiver asks what it is told next. -/
  | receive (receiver : Nat)
deriving DecidableEq, Repr

/-- Whether a step adds a receiver. -/
def Step.isSubscribe : Step → Bool
  | subscribe _ => true
  | _ => false

/-- The channel after a step. -/
def step (b : Broadcast) : Step → Broadcast
  | .subscribe _ => b.subscribe
  | .trigger _ => b.trigger
  | .drop i => (b.drop i).2
  | .receive i => (b.receive i).2

end Broadcast

end ReflectCalc
