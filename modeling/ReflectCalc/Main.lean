import Std.Async.Signal
import ReflectCalc.CommandLine.Client
import ReflectCalc.CommandLine.Launch
import ReflectCalc.CommandLine.Moment
import ReflectCalc.CommandLine.Sockets
import ReflectCalc.Service.Run

/-!
# The programs

The server, and the client under the name `reflex-cli`. Here the system is asked, and what it
answers is handed to the library, which decides what follows.
-/

namespace ReflectCalc

open Std.Async
open CommandLine (Env Exit)

/-! ### The system -/

/-- The variables of the environment that the programs look at. -/
def readEnv : IO Env := do
  let names : List Text := ["COMPREFLEX_CONFIG", "COMPREFLEX_BACKEND_URL"]
  let values ← names.mapM fun name => do
    return (name, (← IO.getEnv (String.ofList name)).map String.toList)
  return fun name => (values.lookup name).join

/-- Reads a file. -/
def readFile (path : Text) : IO (Except OsError Bytes) := do
  try return .ok (Sockets.bytesOf (← IO.FS.readBinFile (String.ofList path)))
  catch e => return .error (Sockets.osError e)

/-- Prints what a program leaves behind. -/
def finish (e : Exit) : IO UInt32 := do
  (← IO.getStdout).putStr (String.ofList e.out)
  (← IO.getStderr).putStr (String.ofList e.err)
  return e.status.toUInt32

/-- Prints a line at once. -/
def announce (line : String) : IO Unit := do
  let out ← IO.getStdout
  out.putStrLn line
  out.flush

/-! ### The client -/

/-- Runs the client. -/
def runClient (env : Env) (args : List Text) : IO UInt32 := do
  let outcome ← match (Client.Task.read env args).toOption.bind Client.Task.inquiry? with
    | some (f, request) => (Sockets.exchange f request).block
    | none => pure .silent
  finish (Client.run (fun _ _ => outcome) env args)

/-! ### The server -/

/-- What the connections of a server share. -/
structure Running where
  config : Config
  service : Service
  /-- What the steady clock said when the program started, in nanoseconds. -/
  began : Nat
  run : IO.Ref ServerRun

/-- Takes a step in the run of a server. A step that cannot happen changes nothing. -/
def advance (run : IO.Ref ServerRun) (step : ServerRun.Step) : IO Unit :=
  run.modify fun r => (r.step? step).getD r

/-- Reads what a client sends until it is enough, the client has closed its side, or time is up. -/
partial def readHead (client : TCP.Socket.Client) (bound deadline : Nat) (received : Bytes) :
    Async (Option Bytes) := do
  if Connection.isSettled bound received then return some received
  let now ← IO.monoMsNow
  if deadline ≤ now then return none
  let late ← Selector.sleep (Sockets.delay (deadline - now))
  let chunk ← Selectable.one #[
    .case (client.recvSelector 16384) fun chunk => return some chunk,
    .case late fun _ => return none]
  match chunk with
  | none => return none
  | some none => return some received
  | some (some chunk) => readHead client bound deadline (received ++ Sockets.bytesOf chunk)

/-- What is written back to a client, after the other server has been asked what is needed. -/
def respond (s : Running) (received : Bytes) : Async (Except ConnectionError Bytes) := do
  let bound := s.config.maxHeaderBytes.toNat
  let inquiry := (Request.read bound received).toOption.bind s.service.inquiry?
  let outcome ← match inquiry with
    | some (f, request) => Sockets.exchange f request
    | none => pure .silent
  let readings ← Builtin.Readings.take s.began
  return Connection.respond (s.service.handle readings fun _ _ => outcome) bound received

/-- Serves a client, and says what came of it. -/
def attend (s : Running) (client : TCP.Socket.Client) : Async (Except ConnectionError Unit) := do
  let deadline := (← IO.monoMsNow) + Sockets.millis s.config.readTimeout
  match ← readHead client s.config.maxHeaderBytes.toNat deadline [] with
  | none => return .error (.readTimeout s.config.readTimeout)
  | some received =>
    match ← respond s received with
    | .error e => return .error e
    | .ok response =>
      client.send (Sockets.arrayOf response)
      client.shutdown
      return .ok ()

/-- Serves a client. Whatever happens, its task ends. -/
def serveClient (s : Running) (client : TCP.Socket.Client) (id : Nat) : Async Unit := do
  let result ← try attend s client catch e => pure (.error (.transport (Sockets.osError e)))
  advance s.run (.finish id (.ofResult result))

/-- Waits a moment for a client. If accepting fails, the slot is given back. -/
def acceptClient (s : Running) (server : TCP.Socket.Server) :
    Async (Option TCP.Socket.Client) := do
  let pause ← Selector.sleep (Sockets.delay 20)
  try
    Selectable.one #[
      .case server.acceptSelector fun client => return some client,
      .case pause fun _ => return none]
  catch _ =>
    advance s.run .fail
    sleep (Sockets.delay 50)
    return none

/-- Accepts clients until a request to stop is heard. -/
partial def acceptClients (s : Running) (server : TCP.Socket.Server) : Async Unit := do
  advance s.run .look
  if (← s.run.get).life.phase == .stopped then return
  advance s.run .takeSlot
  if (← s.run.get).listener.holding then
    if let some client ← acceptClient s server then
      let id := (← s.run.get).listener.arrived
      advance s.run .arrive
      advance s.run .accept
      let _ ← IO.asTask (serveClient s client id).block .dedicated
  else sleep (Sockets.delay 20)
  acceptClients s server

/-- Waits until all connections have ended, or time is up. -/
partial def drain (s : Running) (deadline : Nat) : Async Unit := do
  advance s.run .rest
  if (← s.run.get).outcome.isSome then return
  if deadline ≤ (← IO.monoMsNow) then advance s.run .giveUp
  else
    sleep (Sockets.delay 20)
    drain s deadline

/-- Turns the first of a kind of signal into a request to stop. -/
def watch (run : IO.Ref ServerRun) (signal : Signal) : IO Unit := do
  let waiter ← Signal.Waiter.mk signal false
  let received ← waiter.wait
  let _ ← received.mapIO fun _ => advance run .signal

/-- Serves until a request to stop is heard, and then lets the open connections end. -/
def serve (s : Running) (server : TCP.Socket.Server) : IO Unit := do
  advance s.run .subscribe
  advance s.run .serve
  (acceptClients s server).block
  let deadline := (← IO.monoMsNow) + Sockets.millis s.config.drainTimeout
  (drain s deadline).block

/-- Runs the server. -/
def runServer (env : Env) (args : List Text) : IO UInt32 := do
  let began ← IO.monoNanosNow
  let plan ← match Launch.Plan.read env args with
    | .error e => return ← finish e
    | .ok plan => pure plan
  let document ← (plan.document.mapM readFile : IO _)
  let config ← match plan.config fun _ => document.getD (.ok []) with
    | .error e => return ← finish e
    | .ok config => pure config
  let run ← IO.mkRef ServerRun.start
  advance run .watch
  watch run .sigint
  watch run .sigterm
  let attempt ← match SocketAddress.read? (config.address plan.role) with
    | some address => Sockets.bind address
    | none => pure (.error OsError.networkUnreachable)
  match Server.start (Sockets.machine attempt) config plan.role, attempt with
  | .ok server, .ok socket =>
    advance run (.bind server.listener.limit)
    announce (String.ofList server.service.name ++ " at " ++ toString (← socket.getSockName))
    serve ⟨config, server.service, began, run⟩ socket
    announce "Shutdown complete"
    return 0
  | .error e, _ => finish (Launch.startupExit e)
  | _, .error e => finish (Launch.failure e.detail)

end ReflectCalc

/-- Runs the program that the name of the executable asks for. -/
def main (args : List String) : IO UInt32 := do
  let env ← ReflectCalc.readEnv
  let args : List ReflectCalc.Text := args.map String.toList
  if (← IO.appPath).fileStem == some "reflex-cli" then ReflectCalc.runClient env args
  else ReflectCalc.runServer env args
