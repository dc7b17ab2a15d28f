import ReflectCalc.Net.Ip
import ReflectCalc.Net.OsError
import ReflectCalc.Text.Quoted

/-!
# Machines

What depends on the machine that the program runs on: whether a socket can be bound to an address,
and whether an address can be reached. `Machine.isolated` is a machine without a network.

`Machine.bind` reads an address and binds it; `ListenerError` is what can go wrong.
-/

namespace ReflectCalc

/-- What a machine says to attempts to bind and to connect. -/
structure Machine where
  /-- The error that binding a socket to an address meets. -/
  bindError? : SocketAddress → Option OsError
  /-- The error that connecting to a host and a port meets. -/
  connectError? : Text → Nat → Option OsError

namespace Machine

/-- Whether a port is kept for privileged programs. -/
def isPrivileged (port : Nat) : Bool := 0 < port && port < 1024

/-- A machine without a network, for a program without privileges: it can bind any other port, and
reach nobody. -/
def isolated : Machine where
  bindError? address :=
    if isPrivileged address.port then some OsError.permissionDenied else none
  connectError? _ _ := some OsError.networkUnreachable

end Machine

/-- Why no socket is bound. -/
inductive BindCause where
  /-- The text is no socket address. -/
  | badAddress
  /-- The system refuses. -/
  | os (e : OsError)
deriving DecidableEq, Repr

namespace BindCause

/-- The wording of a cause. -/
def text : BindCause → Text
  | badAddress => "invalid socket address syntax"
  | os e => e.text

/-- A cause with all its parts. -/
def detail : BindCause → Text
  | badAddress => "Custom \x7b kind: InvalidInput, error: AddrParseError(Socket) \x7d"
  | os e => e.detail

end BindCause

/-- Why a listener does not serve. -/
inductive ListenerError where
  /-- No socket is bound to the address. -/
  | bind (address : Text) (cause : BindCause)
  /-- Slots are no longer given out. -/
  | closed
deriving DecidableEq, Repr

namespace ListenerError

/-- The wording of an error. -/
def text : ListenerError → Text
  | bind address cause => "Failed to bind " ++ address ++ ": " ++ cause.text
  | closed => "Connection limiter closed"

/-- An error with all its parts. -/
def detail : ListenerError → Text
  | bind address cause =>
    "Bind \x7b address: " ++ Text.quoted address ++ ", source: " ++ cause.detail ++ " \x7d"
  | closed => "Closed"

end ListenerError

namespace Machine

/-- Binds a socket to the address that a text gives. -/
def bind (m : Machine) (address : Text) : Except ListenerError SocketAddress :=
  match SocketAddress.read? address with
  | some a =>
    match m.bindError? a with
    | some e => .error (.bind address (.os e))
    | none => .ok a
  | none => .error (.bind address .badAddress)

end Machine

end ReflectCalc
