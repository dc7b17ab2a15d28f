import ReflectCalc.Net.Ip

/-!
# URLs

A URL has a scheme, and in most schemes a host, a port and a path. How a text is read as a URL is a
matter of its own, and nothing outside the programs depends on how it is done: a reader is a
parameter of all that is configured by URLs.

* `UrlReader` is a reader, and `LawfulUrlReader` tells the two facts that are known of the URLs that
  one returns;
* `HttpUrl.parse` reads the URL of a server to connect to, over any reader;
* `UrlError` lists what can be wrong with one.
-/

namespace ReflectCalc

/-- The host of a URL. -/
inductive Host where
  | domain (name : Text)
  | v4 (ip : Ipv4)
  | v6 (ip : Ipv6)
deriving DecidableEq, Repr

/-- The host as the name to connect to. -/
def Host.address : Host → Text
  | domain name => name
  | v4 ip => ip.text
  | v6 ip => ip.text

/-- A URL, as it tells its parts. -/
structure Url where
  scheme : Text
  /-- The host, if there is one. -/
  host : Option Host := none
  /-- The host as it stands in the URL. -/
  hostText : Option Text := none
  /-- The port, if it is not the one that goes with the scheme. -/
  port : Option Nat := none
  /-- The port, or else the one that goes with the scheme. -/
  knownPort : Option Nat := none
  path : Text := []
deriving DecidableEq, Repr

/-! ### Readers -/

/-- A reader of URLs. Of a text that is none it says why. -/
class UrlReader where
  read : Text → Except Text Url

/-- What is known of the URLs that a reader returns. -/
class LawfulUrlReader [UrlReader] : Prop where
  /-- The scheme `http` goes with a port. -/
  knownPort_of_http {t : Text} {url : Url} : UrlReader.read t = .ok url →
    url.scheme = ("http" : Text) → url.knownPort.isSome
  /-- The host is written in the URL just if there is one. -/
  hostText_iff_host {t : Text} {url : Url} : UrlReader.read t = .ok url →
    (url.hostText.isSome ↔ url.host.isSome)

/-! ### URLs of servers -/

/-- Why a text is no URL of a server. -/
inductive UrlError where
  /-- It is no URL, for this reason. -/
  | unreadable (reason : Text)
  /-- The scheme is another than `http`. -/
  | notHttp
  /-- There is no host to connect to. -/
  | noHost
  /-- There is no port to connect to. -/
  | noPort
deriving DecidableEq, Repr

/-- The wording of an error. For a scheme other than `http` it depends on who asks. -/
def UrlError.text (notHttpText : Text) : UrlError → Text
  | unreadable reason => reason
  | notHttp => notHttpText
  | noHost => "missing host"
  | noPort => "missing port"

/-- A URL of the scheme `http`. -/
structure HttpUrl where
  host : Host
  /-- The host as it stands in the URL. -/
  hostText : Text
  /-- The port as it stands in the URL. -/
  port : Option Nat
  /-- The port to connect to. -/
  knownPort : Nat
  path : Text
deriving DecidableEq, Repr

namespace HttpUrl

/-- The URL of a server: of the scheme `http`, with a host and a port to connect to. -/
def ofUrl (url : Url) : Except UrlError HttpUrl := do
  if url.scheme ≠ ("http" : Text) then throw .notHttp
  let some host := url.host | throw .noHost
  let some knownPort := url.knownPort | throw .noPort
  let some hostText := url.hostText | throw .noHost
  return ⟨host, hostText, url.port, knownPort, url.path⟩

/-- Reads the URL of a server. -/
def parse [UrlReader] (t : Text) : Except UrlError HttpUrl :=
  match UrlReader.read t with
  | .ok url => ofUrl url
  | .error reason => .error (.unreadable reason)

end HttpUrl

end ReflectCalc
