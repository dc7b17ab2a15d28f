import ReflectCalc.Number.Span

/-!
# Configurations

A configuration is a value for each of eleven settings. Every setting has a default, so a program
can run without a configuration document.

* `Setting` lists the settings; a setting stands under its `Setting.key` in its `Setting.table`, and
  messages speak of it by its `Setting.name`;
* `Config` holds the values; `Config.address` and `Config.limit` are those of a role;
* `LogLevel.directive` says what is logged at a level.
-/

namespace ReflectCalc

/-- The two services that a server can run. -/
inductive Role where
  /-- The service that executes commands. -/
  | backend
  /-- The service for browsers, which passes commands on. -/
  | facade
deriving DecidableEq, Repr

/-! ### Settings -/

/-- What can be configured. -/
inductive Setting where
  /-- The socket address of the backend. -/
  | backendAddress
  /-- How many connections the backend serves at a time. -/
  | backendLimit
  /-- The socket address of the facade. -/
  | facadeAddress
  /-- The base URL that the facade passes commands on to. -/
  | backendUrl
  /-- How many connections the facade serves at a time. -/
  | facadeLimit
  /-- The types that commands may use. An empty list stands for all types. -/
  | allowedTypes
  /-- The seconds within which the head of a request must arrive. -/
  | readSecs
  /-- The seconds that an exchange with the backend may take. -/
  | exchangeSecs
  /-- The seconds that open connections have left after a shutdown. -/
  | drainSecs
  /-- How many bytes the head of a request may have. -/
  | maxHeaderBytes
  /-- How much is logged. -/
  | logLevel
deriving DecidableEq, Repr

namespace Setting

/-- All settings, those of one table in the order in which a list gives them. -/
def all : List Setting :=
  [backendAddress, backendLimit, facadeAddress, backendUrl, facadeLimit, allowedTypes, readSecs,
    exchangeSecs, drainSecs, maxHeaderBytes, logLevel]

/-- The tables of a configuration document. -/
def tables : List Text := ["backend", "facade", "engine", "timeouts", "limits", "observability"]

/-- The table that holds a setting. -/
def table : Setting → Text
  | backendAddress | backendLimit => "backend"
  | facadeAddress | backendUrl | facadeLimit => "facade"
  | allowedTypes => "engine"
  | readSecs | exchangeSecs | drainSecs => "timeouts"
  | maxHeaderBytes => "limits"
  | logLevel => "observability"

/-- The key of a setting in its table. -/
def key : Setting → Text
  | backendAddress | facadeAddress => "bind_address"
  | backendLimit | facadeLimit => "max_connections"
  | backendUrl => "backend_url"
  | allowedTypes => "allowed_types"
  | readSecs => "read_secs"
  | exchangeSecs => "upstream_secs"
  | drainSecs => "drain_secs"
  | maxHeaderBytes => "max_header_bytes"
  | logLevel => "log_level"

/-- The settings of a table. -/
def ofTable (table : Text) : List Setting := all.filter fun s => s.table = table

/-- The name by which messages speak of a setting. -/
def name (s : Setting) : Text := s.table ++ '.' :: s.key

end Setting

/-! ### Values -/

/-- A value for each setting. -/
structure Config where
  backendAddress : Text := "0.0.0.0:45000"
  backendLimit : UInt64 := 1024
  facadeAddress : Text := "0.0.0.0:35000"
  backendUrl : Text := "http://localhost:45000"
  facadeLimit : UInt64 := 1024
  allowedTypes : List Text := []
  readSecs : UInt64 := 10
  exchangeSecs : UInt64 := 15
  drainSecs : UInt64 := 5
  maxHeaderBytes : UInt64 := 16384
  logLevel : Text := "info"
deriving DecidableEq, Repr

namespace Config

/-- The configuration without a document. -/
def standard : Config := {}

/-- The socket address of a role. -/
def address (c : Config) : Role → Text
  | .backend => c.backendAddress
  | .facade => c.facadeAddress

/-- How many connections a role serves at a time. -/
def limit (c : Config) : Role → UInt64
  | .backend => c.backendLimit
  | .facade => c.facadeLimit

/-- The configuration with another socket address for a role. -/
def withAddress (c : Config) (address : Text) : Role → Config
  | .backend => { c with backendAddress := address }
  | .facade => { c with facadeAddress := address }

/-- How long the head of a request may take to arrive. -/
def readTimeout (c : Config) : Span := .ofSecs c.readSecs.toNat

/-- How long an exchange with the backend may take. -/
def exchangeTimeout (c : Config) : Span := .ofSecs c.exchangeSecs.toNat

/-- How long open connections have left after a shutdown. -/
def drainTimeout (c : Config) : Span := .ofSecs c.drainSecs.toNat

end Config

/-! ### Logging -/

namespace LogLevel

/-- The names of the levels, the most talkative one first. -/
def names : List Text := ["trace", "debug", "info", "warn", "error"]

/-- Whether a text names a level. Case has no meaning. -/
def isName (t : Text) : Bool := names.contains (Text.lowerAscii t)

/-- What is logged at a level: the program's own messages from that level on, and warnings of
everything else. -/
def directive (level : Text) : Text := "warn,compreflex=" ++ Text.lowerAscii level

end LogLevel

end ReflectCalc
