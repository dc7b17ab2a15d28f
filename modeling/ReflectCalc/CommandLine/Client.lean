import ReflectCalc.CommandLine.Help
import ReflectCalc.Json.Pretty
import ReflectCalc.Json.Read
import ReflectCalc.Service.Backend
import ReflectCalc.Service.Forwarder
import ReflectCalc.Url.Ascii

/-!
# The client

A program that sends one command to a server and prints what comes back.

* `Client.Task.read` reads the command line: which command goes where;
* `Client.report` is what the program prints for a response: JSON is laid out over lines, unless it
  is asked for as it came;
* `Client.run` is the whole program, for a given way to exchange bytes with servers.
-/

namespace ReflectCalc.Client

open CommandLine

/-! ### The command line -/

/-- The base URL of the server. -/
def urlFlag : Flag where
  short := some 'u'
  long := "url"
  takes := some ("URL", .text)
  envName := some "COMPREFLEX_BACKEND_URL"
  fallback := some "http://localhost:45000"
  purpose := "Base URL of the server"

/-- The path on the server. -/
def endpointFlag : Flag where
  short := some 'e'
  long := "endpoint"
  takes := some ("ENDPOINT", .text)
  fallback := some Backend.path
  purpose := "Endpoint path: /compreflex on a backend, /consulta on a facade"

/-- How long the exchange may take. -/
def timeoutFlag : Flag where
  short := some 't'
  long := "timeout"
  takes := some ("TIMEOUT", .count)
  fallback := some "15"
  purpose := "Request timeout in seconds"

/-- Asks for the body as it came. -/
def rawFlag : Flag where
  long := "raw"
  purpose := "Print the body exactly as received"

/-- The command line of the client. -/
def grammar : Grammar where
  program := "reflex-cli"
  about := "Run a single command against a compreflex server"
  flags := [urlFlag, endpointFlag, timeoutFlag, rawFlag, Flag.help]
  word := some ("COMMAND",
    "The command, e.g. 'binaryInvoke(java.lang.Math, max, double, 4.5, double, -3.7)'")

/-- What the client is to do. -/
structure Task where
  url : Text
  endpoint : Text
  /-- How many seconds the exchange may take. -/
  timeout : Nat
  /-- Whether the body is printed as it came. -/
  raw : Bool
  command : Text
deriving DecidableEq, Repr

/-- Reads the command line. -/
def Task.read (env : Env) (args : List Text) : Except Halt Task := do
  let r ← grammar.read args
  let url ← r.value env urlFlag
  let endpoint ← r.value env endpointFlag
  let timeout ← r.value env timeoutFlag
  return {
    url := url.getD []
    endpoint := endpoint.getD []
    timeout := (timeout.bind (Numeral.readUnsigned? 64)).getD 0
    raw := r.has rawFlag
    command := r.word.getD [] }

/-! ### Running -/

/-- A body as it is printed. -/
def bodyText (raw : Bool) (body : Text) : Text :=
  match Json.read? body with
  | some j => if raw then body else j.pretty
  | none => body

/-- What is printed for a response. Any status but 200 is a failure. -/
def report (raw : Bool) (r : Response) : Exit where
  status := if r.status = 200 then 0 else 1
  out := bodyText raw r.body ++ "\n"
  err :=
    if r.status = 200 then []
    else "Error: server returned " ++ Numeral.ofNat r.status.toNat ++ ' ' :: r.reason ++ "\n"

/-- What is printed for an error. -/
def failure (e : ForwardError) : Exit where
  status := 1
  err := "Error: " ++ e.detail ++ "\n"

/-- What is asked of which server, if its URL can be used. -/
def Task.inquiry? (t : Task) : Option (Forwarder × Bytes) :=
  match Forwarder.ofUrl t.url t.endpoint (Span.ofSecs t.timeout) with
  | .error _ => none
  | .ok f => some (f, f.requestBytes (f.target t.command))

/-- Does what is to be done. -/
def Task.run (exchange : Forwarder → Bytes → Exchange) (t : Task) : Exit :=
  match Forwarder.ofUrl t.url t.endpoint (Span.ofSecs t.timeout) with
  | .error e => failure e
  | .ok f =>
    match f.fetch (exchange f) (f.target t.command) with
    | .error e => failure e
    | .ok r => report t.raw r

/-- Runs the client. -/
def run (exchange : Forwarder → Bytes → Exchange) (env : Env) (args : List Text) : Exit :=
  match Task.read env args with
  | .error h => h.exit grammar env []
  | .ok t => t.run exchange

end ReflectCalc.Client
