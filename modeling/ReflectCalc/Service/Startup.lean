import ReflectCalc.Builtin.Catalog
import ReflectCalc.Config.Basic
import ReflectCalc.Net.Listener
import ReflectCalc.Net.Machine
import ReflectCalc.Service.Facade

/-!
# Starting a server

A server runs one of the two services at a socket address. The service is made first, so that a URL
that cannot be used is told before an address that cannot be bound.

* `Service.ofConfig` makes a service, and `Service.handle` answers a request; what it asks of
  another server for that is its `Service.inquiry?`;
* `Server.start` makes a service and binds its address.
-/

namespace ReflectCalc

/-- What answers requests. -/
inductive Service where
  /-- Executes commands over the built-in types, or those of them that are allowed. -/
  | backend (allowed : List Text)
  /-- Serves the page and passes commands on. -/
  | facade (forwarder : Forwarder)
deriving DecidableEq, Repr

namespace Service

/-- The service of a role. -/
def ofConfig [UrlReader] (c : Config) : Role → Except ForwardError Service
  | .backend => .ok (.backend c.allowedTypes)
  | .facade => (Forwarder.ofUrl c.backendUrl Backend.path c.exchangeTimeout).map .facade

/-- The name of a service. -/
def name : Service → Text
  | backend _ => Backend.name
  | facade _ => Facade.name

/-- What a service asks of another server before it can answer a request: whom, and which bytes it
sends. -/
def inquiry? (s : Service) (r : Request) : Option (Forwarder × Bytes) :=
  match s with
  | backend _ => none
  | facade f =>
    match Facade.command r with
    | .ok command => some (f, f.requestBytes (f.target command))
    | .error _ => none

/-- Answers a request, given what the machine reads and what comes of exchanges. -/
def handle (s : Service) (readings : Builtin.Readings) (exchange : Forwarder → Bytes → Exchange)
    (r : Request) : Response :=
  match s with
  | backend allowed => Backend.handle ((Builtin.catalog readings).narrow allowed) r
  | facade f => Facade.handle f (exchange f) r

end Service

/-- Why a server does not run. -/
inductive StartupError where
  /-- There is no listener. -/
  | listener (e : ListenerError)
  /-- There is no forwarder. -/
  | forward (e : ForwardError)
  /-- The listener cannot count so many slots. -/
  | tooManySlots
deriving DecidableEq, Repr

namespace StartupError

/-- The wording of an error. -/
def text : StartupError → Text
  | listener e => e.text
  | forward e => e.text
  | tooManySlots => Listener.tooManySlots

/-- An error with all its parts. -/
def detail : StartupError → Text
  | listener e => "Listener(" ++ e.detail ++ ")"
  | forward e => "Proxy(" ++ e.detail ++ ")"
  | tooManySlots => Text.quoted Listener.tooManySlots

end StartupError

/-- A server that accepts clients. -/
structure Server where
  service : Service
  address : SocketAddress
  listener : Listener
deriving DecidableEq, Repr

namespace Server

/-- A server for a service at a socket that has been bound. -/
def listen (service : Service) (address : SocketAddress) (limit : Nat) :
    Except StartupError Server :=
  match Listener.open? limit with
  | some l => .ok ⟨service, address, l⟩
  | none => .error .tooManySlots

/-- Starts a server. -/
def start [UrlReader] (m : Machine) (c : Config) (role : Role) : Except StartupError Server :=
  match Service.ofConfig c role with
  | .error e => .error (.forward e)
  | .ok service =>
    match m.bind (c.address role) with
    | .error e => .error (.listener e)
    | .ok address => listen service address (c.limit role).toNat

end Server

end ReflectCalc
