/-!
# Tracking of connections

Each tracker counts its connections that are open. A tracker can be cloned, and all clones go by the
one counter. A guard stands for an open connection; dropping it takes the connection off the counter
that it was put on. Identifiers come from one sequence for the whole process, whatever the tracker.
Counters and identifiers have 64 bits and wrap around.

* `Tracking.track` opens a connection, `Tracking.drop` closes one, and `Tracking.clone` makes a
  tracker a clone of another;
* `Tracking.activeCount` is the count of a tracker, and `Tracking.isIdle` says that it is zero;
* `Tracking.Step` lists what can happen in a process, and `Tracking.step` what comes of it;
* `Tracking.sleeps?` waits until a tracker is idle.
-/

namespace ReflectCalc

/-- What stands for a connection. -/
structure Guard where
  /-- The counter that counts the connection. -/
  counter : Nat
  /-- The identifier of the connection. -/
  id : Nat
  /-- Whether the connection is open. -/
  held : Bool
deriving DecidableEq, Repr

/-- The trackers of a process, each under a number, and the guards that have been given out. -/
structure Tracking where
  /-- The next identifier. -/
  sequence : UInt64
  /-- The counter by which each tracker goes. -/
  counter : Nat → Nat
  /-- What each counter says. -/
  active : Nat → UInt64
  /-- The guards in the order in which they were given out. -/
  guards : List Guard

namespace Tracking

/-- A process in which no connection has been opened. Every tracker is new and has a counter of its
own. -/
def start : Tracking := ⟨1, fun tracker => tracker, fun _ => 0, []⟩

/-- The next identifier, as a number. -/
def nextId (t : Tracking) : Nat := t.sequence.toNat

/-- How many connections of a tracker and its clones are open. -/
def activeCount (t : Tracking) (tracker : Nat) : Nat := (t.active (t.counter tracker)).toNat

/-- Whether a tracker has no open connection. -/
def isIdle (t : Tracking) (tracker : Nat) : Bool := t.activeCount tracker == 0

/-- A table with one of its entries changed. -/
def change {α : Type} (f : α → α) (i : Nat) (table : Nat → α) : Nat → α :=
  fun k => if k = i then f (table k) else table k

/-- Makes a tracker a clone of another one, in place of what it was. -/
def clone (t : Tracking) (original copy : Nat) : Tracking :=
  { t with counter := change (fun _ => t.counter original) copy t.counter }

/-- Takes an identifier without opening a connection. -/
def takeId (t : Tracking) : Nat × Tracking := (t.nextId, { t with sequence := t.sequence + 1 })

/-- Opens a connection and returns its identifier. -/
def track (t : Tracking) (tracker : Nat) : Nat × Tracking :=
  (t.nextId, {
    t with
    sequence := t.sequence + 1
    active := change (· + 1) (t.counter tracker) t.active
    guards := t.guards ++ [⟨t.counter tracker, t.nextId, true⟩] })

/-- Drops a guard. Says whether it was held. -/
def drop (t : Tracking) (i : Nat) : Bool × Tracking :=
  match t.guards[i]? with
  | some g =>
    if g.held then
      (true, { t with
        active := change (· - 1) g.counter t.active
        guards := t.guards.set i { g with held := false } })
    else (false, t)
  | none => (false, t)

/-! ### Steps -/

/-- What can happen in a process. -/
inductive Step where
  /-- A tracker becomes a clone of another one. -/
  | clone (original copy : Nat)
  /-- A tracker opens a connection. -/
  | track (tracker : Nat)
  /-- A guard is dropped. -/
  | drop (guard : Nat)
  /-- An identifier is taken for something else. -/
  | takeId
deriving DecidableEq, Repr

/-- Whether a step opens a connection. -/
def Step.isTrack : Step → Bool
  | track _ => true
  | _ => false

/-- Whether a step takes an identifier. -/
def Step.takesId : Step → Bool
  | track _ | takeId => true
  | _ => false

/-- The process after a step. -/
def step (t : Tracking) : Step → Tracking
  | .clone original copy => t.clone original copy
  | .track tracker => (t.track tracker).2
  | .drop i => (t.drop i).2
  | .takeId => t.takeId.2

/-- The process after some steps. -/
def run (t : Tracking) (steps : List Step) : Tracking := steps.foldl step t

/-- Waits until a tracker is idle, with a sleep each time that it is not: how often it sleeps, given
what happens in the course of each sleep, and `none` if it is not idle after the last one. -/
def sleeps? (t : Tracking) (tracker : Nat) : List (List Step) → Option Nat
  | [] => if t.isIdle tracker then some 0 else none
  | steps :: later =>
    if t.isIdle tracker then some 0
    else ((t.run steps).sleeps? tracker later).map (· + 1)

end Tracking

end ReflectCalc
