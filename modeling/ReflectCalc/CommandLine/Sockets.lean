import Std.Async.DNS
import Std.Async.TCP
import Std.Async.Timer
import ReflectCalc.Net.Machine
import ReflectCalc.Service.Forwarder

/-!
# Sockets

What the programs ask of the system's network. `Sockets.exchange` sends a request to a server and
gathers the answer, `Sockets.bind` binds the address of a server. What comes of either is told in
the terms of `Exchange` and `Machine`, and nothing is decided here.
-/

namespace ReflectCalc.Sockets

open Std.Async
open Std.Async.TCP.Socket (Client Server)

/-- The number of an error, if the system gave one. -/
def codeOf : IO.Error → UInt32
  | .alreadyExists _ code _ | .otherError code _ | .resourceBusy code _ | .resourceVanished code _
  | .unsupportedOperation code _ | .hardwareFault code _ | .unsatisfiedConstraints code _
  | .illegalOperation code _ | .protocolError code _ | .timeExpired code _ | .interrupted _ code _
  | .noFileOrDirectory _ code _ | .invalidArgument _ code _ | .permissionDenied _ code _
  | .resourceExhausted _ code _ | .inappropriateType _ code _ | .noSuchThing _ code _ => code
  | _ => 0

/-- The system's error. Its number can come with a minus sign. -/
def osError (e : IO.Error) : OsError :=
  let code := codeOf e
  OsError.ofCode (if code < 0x80000000 then code else -code).toNat e.toString.toList

/-- The bytes of an array. -/
def bytesOf (a : ByteArray) : Bytes := a.toList

/-- The array of bytes. -/
def arrayOf (bytes : Bytes) : ByteArray := ⟨bytes.toArray⟩

/-- A socket address in the system's terms. -/
def systemAddress (ip : Std.Net.IPAddr) (port : Nat) : Std.Net.SocketAddress :=
  match ip with
  | .v4 ip => .v4 ⟨ip, port.toUInt16⟩
  | .v6 ip => .v6 ⟨ip, port.toUInt16⟩

/-- The address that a text gives, in the system's terms. -/
def literal? (t : Text) : Option Std.Net.IPAddr :=
  let s := String.ofList t
  match Std.Net.IPv4Addr.ofString s with
  | some ip => some (.v4 ip)
  | none => (Std.Net.IPv6Addr.ofString s).map .v6

/-! ### Clients -/

/-- The addresses of a host. -/
def addresses (host : Text) : Async (Array Std.Net.IPAddr) :=
  match literal? host with
  | some ip => pure #[ip]
  | none => DNS.getAddrInfo (String.ofList host) ""

/-- Connects to the first of some addresses that can be reached. -/
def connect (port : Nat) : IO.Error → List Std.Net.IPAddr → Async Client
  | e, [] => throw e
  | _, ip :: rest => do
    let client ← Client.mk
    try
      client.connect (systemAddress ip port)
      return client
    catch e => connect port e rest

/-- Gathers what a server sends, up to a bound. -/
partial def gather (client : Client) (received : ByteArray) : Async ByteArray := do
  if Forwarder.maxReply ≤ received.size then return received
  match ← client.recv? 65536 with
  | some chunk => gather client (received ++ chunk)
  | none => return received

/-- Sends a request on a connection and gathers the answer. -/
def ask (client : Client) (request : Bytes) : Async Exchange := do
  try
    client.send (arrayOf request)
    return .reply (bytesOf (← gather client ByteArray.empty))
  catch e => return .broken (osError e)

/-- Connects to a server, sends a request and gathers the answer. -/
def converse (f : Forwarder) (request : Bytes) : Async Exchange := do
  try
    let nobody := IO.userError "no address"
    let client ← connect f.port nobody (← addresses f.host).toList
    ask client request
  catch e => return .unreachable (osError e)

/-- Milliseconds as a delay. -/
def delay (millis : Nat) : Std.Time.Millisecond.Offset := .ofNat millis

/-- The milliseconds of a span, bounded by a year. -/
def millis (s : Span) : Nat := min (s.nanos / tenTo 6) 31536000000

/-- Waits for a span, after which an exchange counts as silent. -/
def patience (s : Span) : Async Exchange := do
  sleep (delay (millis s))
  return .silent

instance : Inhabited Exchange := ⟨.silent⟩

/-- What comes of sending a request in the time that there is for it. -/
def exchange (f : Forwarder) (request : Bytes) : Async Exchange :=
  Async.race (converse f request) (patience f.timeout)

/-! ### Servers -/

/-- A socket that is bound to an address and listens, or the system's error. -/
def bind (address : SocketAddress) : IO (Except OsError Server) := do
  let ip := match address with
    | .v4 ip _ => ip.text
    | .v6 ip _ _ => ip.text
  match literal? ip with
  | none => return .error OsError.networkUnreachable
  | some ip =>
    try
      let server ← Server.mk
      server.bind (systemAddress ip address.port)
      server.listen 1024
      return .ok server
    catch e => return .error (osError e)

/-- The machine, after an attempt to bind an address. -/
def machine (attempt : Except OsError Server) : Machine where
  bindError? _ :=
    match attempt with
    | .ok _ => none
    | .error e => some e
  connectError? _ _ := none

end ReflectCalc.Sockets
