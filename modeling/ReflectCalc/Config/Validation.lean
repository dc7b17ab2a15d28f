import ReflectCalc.Config.Basic
import ReflectCalc.Net.Ip
import ReflectCalc.Text.Quoted
import ReflectCalc.Url.Basic

/-!
# Validation

Whether the values of a configuration can be used. Each setting is checked by itself, so mending one
takes its error from the list and leaves the others. URLs are read by any reader.

* `Config.error?` is what is wrong with one setting;
* `Config.errors` lists what is wrong, in the order of `Setting.checked`;
* `SettingError.text` and `SettingError.detail` are two ways to tell it.
-/

namespace ReflectCalc

/-- What is wrong with a setting. -/
inductive SettingError where
  /-- The value is no socket address. -/
  | badAddress (s : Setting) (value : Text)
  /-- The value is no URL of a backend. -/
  | badUrl (s : Setting) (value : Text) (cause : UrlError)
  /-- The value is zero. -/
  | zero (s : Setting)
  /-- There is no such level. -/
  | unknownLevel (value : Text)
deriving DecidableEq, Repr

namespace SettingError

/-- What is said of a backend URL with another scheme than `http`. -/
def mustBeHttp : Text := "scheme must be http"

/-- The wording of an error. -/
def text : SettingError → Text
  | badAddress s value => s.name ++ ": '" ++ value ++ "' is not a valid socket address"
  | badUrl s value cause =>
    s.name ++ ": '" ++ value ++ "' is not a usable backend URL (" ++ cause.text mustBeHttp ++ ")"
  | zero s => s.name ++ " must be greater than zero"
  | unknownLevel value => Setting.name .logLevel ++ ": unknown level '" ++ value ++ "'"

/-- An error with all its parts. -/
def detail : SettingError → Text
  | badAddress s value =>
    "InvalidAddress \x7b field: " ++ Text.quoted s.name ++ ", value: " ++ Text.quoted value ++
      " \x7d"
  | badUrl s value cause =>
    "InvalidUrl \x7b field: " ++ Text.quoted s.name ++ ", value: " ++ Text.quoted value ++
      ", reason: " ++ Text.quoted (cause.text mustBeHttp) ++ " \x7d"
  | zero s => "Zero \x7b field: " ++ Text.quoted s.name ++ " \x7d"
  | unknownLevel value => "UnknownLogLevel(" ++ Text.quoted value ++ ")"

end SettingError

/-- The settings that can be wrong, in the order in which they are checked. -/
def Setting.checked : List Setting :=
  [backendAddress, facadeAddress, backendUrl, backendLimit, facadeLimit, readSecs, exchangeSecs,
    maxHeaderBytes, logLevel]

namespace Config

variable [UrlReader]

/-- An address must be a socket address. -/
def addressError? (s : Setting) (value : Text) : Option SettingError :=
  if (SocketAddress.read? value).isSome then none else some (.badAddress s value)

/-- A count must not be zero. -/
def countError? (s : Setting) (value : UInt64) : Option SettingError :=
  if value = 0 then some (.zero s) else none

/-- The URL of a backend must be of the scheme `http` and have a host. -/
def urlError? (s : Setting) (value : Text) : Option SettingError :=
  match UrlReader.read value with
  | .error reason => some (.badUrl s value (.unreadable reason))
  | .ok url =>
    if url.scheme ≠ ("http" : Text) then some (.badUrl s value .notHttp)
    else if url.hostText = none then some (.badUrl s value .noHost)
    else none

/-- What is wrong with the value of a setting. -/
def error? (c : Config) (s : Setting) : Option SettingError :=
  match s with
  | .backendAddress => addressError? s c.backendAddress
  | .facadeAddress => addressError? s c.facadeAddress
  | .backendUrl => urlError? s c.backendUrl
  | .backendLimit => countError? s c.backendLimit
  | .facadeLimit => countError? s c.facadeLimit
  | .readSecs => countError? s c.readSecs
  | .exchangeSecs => countError? s c.exchangeSecs
  | .maxHeaderBytes => countError? s c.maxHeaderBytes
  | .logLevel => if LogLevel.isName c.logLevel then none else some (.unknownLevel c.logLevel)
  | .allowedTypes | .drainSecs => none

/-- What is wrong with a configuration. -/
def errors (c : Config) : List SettingError := Setting.checked.filterMap c.error?

end Config

end ReflectCalc
