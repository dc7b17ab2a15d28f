import ReflectCalc.Http.Form
import ReflectCalc.Http.Response
import ReflectCalc.Net.OsError
import ReflectCalc.Number.Span
import ReflectCalc.Text.Quoted
import ReflectCalc.Url.Basic

/-!
# Forwarding

A forwarder passes commands on to another server, each in a request and a connection of its own.

* `Forwarder.ofUrl` makes one from a base URL and an endpoint, over a reader of URLs;
* `Forwarder.target` is the target that carries a command, and `Forwarder.requestText` the whole
  request;
* `Exchange` is what comes of sending the bytes of a request, and `Forwarder.receive` reads it.
-/

namespace ReflectCalc

/-- What comes of sending a request. -/
inductive Exchange where
  /-- No connection can be made. -/
  | unreachable (e : OsError)
  /-- The answer is not there in time. -/
  | silent
  /-- The connection breaks. -/
  | broken (e : OsError)
  /-- These bytes arrive before the connection is closed. -/
  | reply (raw : Bytes)
deriving DecidableEq, Repr

/-- Why a command is not forwarded. -/
inductive ForwardError where
  /-- The base URL is not usable. -/
  | invalidUrl (url : Text) (cause : UrlError)
  /-- No connection can be made. -/
  | connect (authority : Text) (e : OsError)
  /-- The answer is not there in time. -/
  | timeout (authority : Text) (limit : Span)
  /-- The connection breaks. -/
  | broken (e : OsError)
  /-- The answer is no response. -/
  | response (e : ResponseError)
deriving DecidableEq, Repr

namespace ForwardError

/-- What is said of a base URL with another scheme than `http`. -/
def onlyHttp : Text := "only http:// upstreams are supported"

/-- The wording of an error. -/
def text : ForwardError → Text
  | invalidUrl url cause => "invalid upstream URL '" ++ url ++ "': " ++ cause.text onlyHttp
  | connect authority e => "connection to " ++ authority ++ " failed: " ++ e.text
  | timeout authority limit =>
    "upstream " ++ authority ++ " did not answer within " ++ limit.text
  | broken e => "upstream I/O failure: " ++ e.text
  | response e => e.text

/-- An error with all its parts. -/
def detail : ForwardError → Text
  | invalidUrl url cause =>
    "InvalidUrl \x7b url: " ++ Text.quoted url ++ ", reason: " ++
      Text.quoted (cause.text onlyHttp) ++ " \x7d"
  | connect authority e =>
    "Connect \x7b authority: " ++ Text.quoted authority ++ ", source: " ++ e.detail ++ " \x7d"
  | timeout authority limit =>
    "Timeout \x7b authority: " ++ Text.quoted authority ++ ", timeout: " ++ limit.text ++ " \x7d"
  | broken e => "Io(" ++ e.detail ++ ")"
  | response e => "Response(" ++ e.detail ++ ")"

end ForwardError

/-- Where commands are passed on to. -/
structure Forwarder where
  /-- The name or address to connect to. -/
  host : Text
  /-- The host as requests name it, with the port unless it is 80. -/
  hostHeader : Text
  port : Nat
  /-- The path of the base URL, without slashes at its end. -/
  basePath : Text
  /-- The path that follows, with one slash at its front. -/
  endpoint : Text
  /-- How long one exchange may take. -/
  timeout : Span
deriving DecidableEq, Repr

namespace Forwarder

/-- The name under which requests are made. -/
def userAgent : Text := "compreflex/0.1.0"

/-- How many bytes of an answer are read. -/
def maxReply : Nat := 8 * 1024 * 1024

/-- The forwarder to a URL that has been read. -/
def ofHttpUrl (url : HttpUrl) (endpoint : Text) (timeout : Span) : Forwarder where
  host := url.host.address
  hostHeader :=
    match url.port with
    | some port => url.hostText ++ ':' :: Numeral.ofNat port
    | none => url.hostText
  port := url.knownPort
  basePath := url.path.dropTrailing '/'
  endpoint := '/' :: endpoint.dropLeading '/'
  timeout := timeout

/-- The forwarder to a base URL. -/
def ofUrl [UrlReader] (url endpoint : Text) (timeout : Span) :
    Except ForwardError Forwarder :=
  match HttpUrl.parse url with
  | .ok u => .ok (ofHttpUrl u endpoint timeout)
  | .error e => .error (.invalidUrl url e)

/-- The host and the port to connect to. -/
def authority (f : Forwarder) : Text := f.host ++ ':' :: Numeral.ofNat f.port

/-- The target that carries a command. -/
def target (f : Forwarder) (command : Text) : Text :=
  f.basePath ++ f.endpoint ++ "?comando=" ++ Form.encode command

/-- The request for a target. -/
def requestText (f : Forwarder) (target : Text) : Text :=
  "GET " ++ target ++ " HTTP/1.1\r\nHost: " ++ f.hostHeader ++ "\r\nUser-Agent: " ++ userAgent ++
    "\r\nAccept: application/json\r\nConnection: close\r\n\r\n"

/-- The bytes of the request for a target. -/
def requestBytes (f : Forwarder) (target : Text) : Bytes := Utf8.encode (f.requestText target)

/-- The response that came of an exchange. -/
def receive (f : Forwarder) : Exchange → Except ForwardError Response
  | .unreachable e => .error (.connect f.authority e)
  | .silent => .error (.timeout f.authority f.timeout)
  | .broken e => .error (.broken e)
  | .reply raw =>
    match Response.parse (raw.take maxReply) with
    | .ok r => .ok r
    | .error e => .error (.response e)

/-- Sends a request for a target and reads what comes back. -/
def fetch (f : Forwarder) (exchange : Bytes → Exchange) (target : Text) :
    Except ForwardError Response :=
  f.receive (exchange (f.requestBytes target))

/-- Passes a command on. The body that comes back is the result, whatever the status. -/
def forward (f : Forwarder) (exchange : Bytes → Exchange) (command : Text) :
    Except ForwardError Text :=
  (f.fetch exchange (f.target command)).map Response.body

end Forwarder

end ReflectCalc
