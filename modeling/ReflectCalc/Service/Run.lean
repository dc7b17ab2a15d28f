import ReflectCalc.Net.Listener
import ReflectCalc.Net.Tracker
import ReflectCalc.Service.Connection
import ReflectCalc.Service.Lifecycle

/-!
# The run of a server

A server from its creation to its end. Three machines take their steps together here: the life of the
server decides when clients can be accepted, its listener gives out slots, and its tracker counts
connections.

* A client that is accepted becomes a `ServerTask`. It owns a slot and a guard of the tracker, and as
  these are dropped with the task, both are given back however the task ends;
* `ServerRun.Step` lists what can happen, and `ServerRun.step?` what comes of it, if it can happen;
* once a request to stop has been heard the listener is closed, and the server looks at the tracker
  until no connection is open or time is up. `ServerRun.Outcome` tells which came first.
-/

namespace ReflectCalc

/-- How a connection ends of which this has come. -/
def Listener.Ending.ofResult {α : Type} : Except ConnectionError α → Listener.Ending
  | .ok _ => .served
  | .error (.readTimeout _) => .late
  | .error (.request _) => .unreadable
  | .error (.transport _) => .broken

/-- Whether the system queues clients for a server at this point of its life. -/
def Phase.queues : Phase → Bool
  | .bound | .subscribed | .accepting => true
  | .created | .watching | .stopped => false

/-- What serves a client. -/
structure ServerTask where
  client : Nat
  /-- The number of its guard, in the order in which guards are given out. -/
  guard : Nat
deriving DecidableEq, Repr

/-- How the run of a server ends. -/
inductive ServerRun.Outcome where
  /-- All connections have ended. -/
  | idle
  /-- Time is up, with so many connections open. -/
  | abandoned (count : Nat)
deriving DecidableEq, Repr

/-- A server in the course of its run. -/
structure ServerRun where
  life : Lifecycle
  listener : Listener
  tracking : Tracking
  tasks : List ServerTask
  /-- How the run has ended, if it has. -/
  outcome : Option ServerRun.Outcome

namespace ServerRun

/-- The tracker of the server, the only one there is. -/
def tracker : Nat := 0

/-- What stands for the listener until an address is bound. -/
def unbound : Listener := ⟨0, 0, false, 0, [], [], 0, false⟩

/-- A server that has just been created. -/
def start : ServerRun := ⟨.start, unbound, .start, [], none⟩

/-- What can happen to a server. -/
inductive Step where
  /-- Signals are watched from now on. -/
  | watch
  /-- The address is bound, with so many slots. -/
  | bind (limit : Nat)
  /-- The server subscribes to the channel. -/
  | subscribe
  /-- The server begins to accept clients. -/
  | serve
  /-- A signal asks the server to stop. -/
  | signal
  /-- The server looks at the channel, and closes its listener if it hears of a request. -/
  | look
  /-- A client connects. -/
  | arrive
  /-- A slot is taken. -/
  | takeSlot
  /-- The next client is accepted, and gets a task. -/
  | accept
  /-- Accepting fails with an error of the system; the slot is given back. -/
  | fail
  /-- The task of a client ends, with its connection. -/
  | finish (client : Nat) (how : Listener.Ending)
  /-- The server that has stopped looks whether a connection is open. -/
  | rest
  /-- The time to wait for open connections is up. -/
  | giveUp
deriving DecidableEq, Repr

/-- What a step is in the life of the server. -/
def Step.life? : Step → Option Lifecycle.Step
  | watch => some .watch
  | bind _ => some .bind
  | subscribe => some .subscribe
  | serve => some .accept
  | signal => some .signal
  | look => some .receive
  | _ => none

/-- The server after a step of its life, if the step can happen. -/
def live? (r : ServerRun) (s : Lifecycle.Step) : Option ServerRun :=
  (r.life.step? s).map fun life => { r with life := life }

/-- The server with its listener closed, if it has stopped. -/
def closed (r : ServerRun) : ServerRun :=
  if r.life.phase = .stopped then { r with listener := r.listener.step .stop } else r

/-- The server after a step of its listener. -/
def listen (r : ServerRun) (s : Listener.Step) : ServerRun :=
  { r with listener := r.listener.step s }

/-- The server that has accepted a client. -/
def withTask (r : ServerRun) (client : Nat) : ServerRun :=
  { r with
    listener := r.listener.step .accept
    tracking := (r.tracking.track tracker).2
    tasks := r.tasks ++ [⟨client, r.tracking.guards.length⟩] }

/-- The server that has dropped the task of a client. -/
def withoutTask (r : ServerRun) (task : ServerTask) (how : Listener.Ending) : ServerRun :=
  { r with
    listener := r.listener.step (.finish task.client how)
    tracking := (r.tracking.drop task.guard).2
    tasks := r.tasks.erase task }

/-- The server after a step, unless its run has ended. -/
def move? (r : ServerRun) : Step → Option ServerRun
  | .watch => r.live? .watch
  | .bind limit => do
    let listener ← Listener.open? limit
    let bound ← r.live? .bind
    return { bound with listener := listener }
  | .subscribe => r.live? .subscribe
  | .serve => r.live? .accept
  | .signal => r.live? .signal
  | .look => (r.live? .receive).map closed
  | .arrive => if r.life.phase.queues then some (r.listen .arrive) else none
  | .takeSlot => if r.life.phase = .accepting then some (r.listen .takeSlot) else none
  | .accept => if r.life.phase = .accepting then r.listener.next?.map r.withTask else none
  | .fail =>
    if r.life.phase = .accepting ∧ r.listener.holding then some (r.listen .fail) else none
  | .finish client how =>
    (r.tasks.find? fun task => task.client = client).map fun task => r.withoutTask task how
  | .rest =>
    if r.life.phase = .stopped then
      some (if r.tracking.isIdle tracker then { r with outcome := some .idle } else r)
    else none
  | .giveUp =>
    if r.life.phase = .stopped then
      some { r with outcome := some (.abandoned (r.tracking.activeCount tracker)) }
    else none

/-- The server after a step, if the step can happen. Nothing happens after the end. -/
def step? (r : ServerRun) (s : Step) : Option ServerRun :=
  if r.outcome = none then r.move? s else none

/-- The server after steps of which all can happen. -/
def run? (r : ServerRun) (steps : List Step) : Option ServerRun := steps.foldlM step? r

end ServerRun

end ReflectCalc
