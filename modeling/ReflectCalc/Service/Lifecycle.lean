import ReflectCalc.Net.Broadcast

/-!
# The life of a server

A server goes through its phases in their order, and a request to stop can come at any time after
the signals are watched. The request is sent on a channel; what the server hears of it depends on
whether it has subscribed by then.

* `Lifecycle.Step` lists what can happen, and `Lifecycle.step?` what comes of it, if it can happen;
* `Lifecycle.isPending` says that the server will hear of a request.
-/

namespace ReflectCalc

/-- How far a server has come. -/
inductive Phase where
  /-- There is a channel for requests to stop. -/
  | created
  /-- Signals are turned into requests. -/
  | watching
  /-- The address is bound. -/
  | bound
  /-- The server listens to the channel. -/
  | subscribed
  /-- Clients are accepted. -/
  | accepting
  /-- A request has been heard, and no more clients are accepted. -/
  | stopped
deriving DecidableEq, Repr

/-- A server, seen from the channel for requests to stop. -/
structure Lifecycle where
  phase : Phase
  channel : Broadcast
  /-- Whether a request to stop has been sent. -/
  requested : Bool
deriving DecidableEq, Repr

namespace Lifecycle

/-- A server that has just been created. -/
def start : Lifecycle := ⟨.created, Broadcast.new, false⟩

/-- What can happen to a server. -/
inductive Step where
  /-- Signals are watched from now on. -/
  | watch
  /-- The address is bound. -/
  | bind
  /-- The server subscribes to the channel. -/
  | subscribe
  /-- The server begins to accept clients. -/
  | accept
  /-- A signal asks the server to stop. -/
  | signal
  /-- The server looks at the channel. -/
  | receive
deriving DecidableEq, Repr

/-- The number of the server's receiver, the only one there is. -/
def receiver : Nat := 0

/-- Whether there is something on the channel that the server has not heard. -/
def isPending (l : Lifecycle) : Bool :=
  match (l.channel.receive receiver).1 with
  | .signal | .lagged _ => true
  | .nothing | .empty => false

/-- The server after a step, if the step can happen. Whatever it hears makes it stop, be it a
request or the news that it has missed some. -/
def step? (l : Lifecycle) : Step → Option Lifecycle
  | .watch => if l.phase = .created then some { l with phase := .watching } else none
  | .bind => if l.phase = .watching then some { l with phase := .bound } else none
  | .subscribe =>
    if l.phase = .bound then
      some { l with phase := .subscribed, channel := l.channel.subscribe }
    else none
  | .accept => if l.phase = .subscribed then some { l with phase := .accepting } else none
  | .signal =>
    if l.phase = .created then none
    else some { l with channel := l.channel.trigger, requested := true }
  | .receive =>
    if l.phase = .accepting then
      let (notice, channel) := l.channel.receive receiver
      match notice with
      | .signal | .lagged _ => some { l with phase := .stopped, channel := channel }
      | .nothing | .empty => some l
    else none

/-- The server after steps of which all can happen. -/
def run? (l : Lifecycle) : List Step → Option Lifecycle
  | [] => some l
  | s :: rest => do run? (← l.step? s) rest

end Lifecycle

end ReflectCalc
