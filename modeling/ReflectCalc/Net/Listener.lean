import ReflectCalc.Text.Basic

/-!
# Listeners with a limit

A listener serves at most `limit` connections at a time. A slot is taken before a client is
accepted, so that clients wait in the queue of the system while all slots are in use. A slot is a
value with an owner, first the attempt to accept a client and then the connection, and it is given
back when its owner is gone. So it makes no difference here why an attempt or a connection ends.

The tracker of the server is only a number here. In the run of a server, `ServerRun`, it is a tracker
with its guards, and a listener takes its steps together with it.

* `Listener.open?` makes a listener, unless the limit is too large to count;
* `Listener.next?` is the client that can be accepted now;
* `Listener.Step` lists what can happen, and `Listener.step` what comes of it; a step that cannot
  happen changes nothing;
* `Listener.tryAccept` takes a slot and accepts the next client if both are there.
-/

namespace ReflectCalc

/-- A listener and its connections. Clients are numbered in the order of their arrival. -/
structure Listener where
  /-- How many connections it serves at a time. -/
  limit : Nat
  /-- How many slots are free. -/
  available : Nat
  /-- Whether a slot has been taken for a client that is still to come. -/
  holding : Bool
  /-- How many clients have arrived. -/
  arrived : Nat
  /-- The clients that wait in the queue of the system, the first to arrive in front. -/
  waiting : List Nat
  /-- The connections that are being served. -/
  running : List Nat
  /-- How many connections the tracker counts. -/
  tracked : Nat
  /-- Whether a shutdown has been received. -/
  stopped : Bool
deriving DecidableEq, Repr

namespace Listener

/-- The largest number of slots that can be counted. -/
def maxSlots : Nat := 2305843009213693951

/-- What a program says that is given a larger limit. -/
def tooManySlots : Text :=
  "a semaphore may not have more than MAX_PERMITS permits (2305843009213693951)"

/-- A listener without clients. -/
def open? (limit : Nat) : Option Listener :=
  if limit ≤ maxSlots then some ⟨limit, limit, false, 0, [], [], 0, false⟩ else none

/-- How a connection can end. What is told of the connection depends on it, and nothing else. -/
inductive Ending where
  /-- A response has been written. -/
  | served
  /-- The head of the request cannot be read. -/
  | unreadable
  /-- The head of the request is not there in time. -/
  | late
  /-- The connection breaks. -/
  | broken
  /-- The program crashes while it serves the client. -/
  | crashed
deriving DecidableEq, Repr

/-- What can happen to a listener. -/
inductive Step where
  /-- A client connects. -/
  | arrive
  /-- A slot is taken. -/
  | takeSlot
  /-- The next client is accepted into the slot that was taken. -/
  | accept
  /-- Accepting fails with an error of the system; the slot is given back. -/
  | fail
  /-- Waiting for a slot or for a client is cut off; a slot that was taken is given back. -/
  | cancel
  /-- A connection ends. Its slot is given back and it is no longer counted, whatever the ending. -/
  | finish (client : Nat) (how : Ending := .served)
  /-- A shutdown is received; a slot that was taken is given back. -/
  | stop
deriving DecidableEq, Repr

/-- Gives back a slot that was taken for a client still to come. -/
def release (l : Listener) : Listener :=
  if l.holding then { l with holding := false, available := l.available + 1 } else l

/-- The client that can be accepted now: the first one that waits, if a slot has been taken for
it. -/
def next? (l : Listener) : Option Nat :=
  if l.stopped = false ∧ l.holding then l.waiting.head? else none

/-- The listener after a step. -/
def step (l : Listener) : Step → Listener
  | .arrive => { l with arrived := l.arrived + 1, waiting := l.waiting ++ [l.arrived] }
  | .takeSlot =>
    if l.stopped = false ∧ l.holding = false ∧ 0 < l.available then
      { l with holding := true, available := l.available - 1 }
    else l
  | .accept =>
    match l.next? with
    | some client =>
      { l with
        holding := false
        waiting := l.waiting.tail
        running := l.running ++ [client]
        tracked := l.tracked + 1 }
    | none => l
  | .fail | .cancel => l.release
  | .finish client _ =>
    if client ∈ l.running then
      { l with
        available := l.available + 1
        running := l.running.erase client
        tracked := l.tracked - 1 }
    else l
  | .stop => { l.release with stopped := true }

/-- Accepts the next client if there is one and a slot is free. Says whether it did. -/
def tryAccept (l : Listener) : Bool × Listener :=
  let ready := l.step .takeSlot
  match ready.next? with
  | some _ => (true, ready.step .accept)
  | none => (false, ready.step .cancel)

end Listener

end ReflectCalc
