import ReflectCalc.Config.Document
import ReflectCalc.Config.Validation
import ReflectCalc.Net.OsError
import ReflectCalc.Text.Utf8

/-!
# Sources of configurations

A configuration comes from a document, and a document from a file. `Config.ofDocument` reads and
checks a document, `Config.ofFile` reads the file first.
-/

namespace ReflectCalc

/-- What a file system answers when the file at a path is read. -/
abbrev Files := Text → Except OsError Bytes

/-- Why the text of a file is not to be had. -/
inductive FileError where
  /-- The system refuses. -/
  | os (e : OsError)
  /-- The bytes are no UTF-8. -/
  | notUtf8
deriving DecidableEq, Repr

namespace FileError

/-- What is said of bytes that are no UTF-8. -/
def notUtf8Text : Text := "stream did not contain valid UTF-8"

/-- The wording of an error. -/
def text : FileError → Text
  | os e => e.text
  | notUtf8 => notUtf8Text

/-- An error with all its parts. -/
def detail : FileError → Text
  | os e => e.detail
  | notUtf8 => "Error \x7b kind: InvalidData, message: " ++ Text.quoted notUtf8Text ++ " \x7d"

end FileError

/-- The text of a file. -/
def Files.text (files : Files) (path : Text) : Except FileError Text :=
  match files path with
  | .error e => .error (.os e)
  | .ok content =>
    match Utf8.decode? content with
    | some t => .ok t
    | none => .error .notUtf8

/-- Why there is no configuration. -/
inductive ConfigError where
  /-- The document is not to be had. -/
  | file (path : Text) (cause : FileError)
  /-- The document cannot be read, or has a value of the wrong kind. -/
  | malformed
  /-- The values cannot be used. -/
  | invalid (errors : List SettingError)
deriving DecidableEq, Repr

namespace ConfigError

/-- The wording of an error. -/
def text : ConfigError → Text
  | file path cause => "IO error reading " ++ path ++ ": " ++ cause.text
  | malformed => "Parse error"
  | invalid errors => "Validation failed: " ++ Text.join ", " (errors.map SettingError.text)

/-- An error with all its parts. -/
def detail : ConfigError → Text
  | file path cause =>
    "Io \x7b path: " ++ Text.quoted path ++ ", source: " ++ cause.detail ++ " \x7d"
  | malformed => "Parse"
  | invalid errors =>
    "Validation([" ++ Text.join ", " (errors.map SettingError.detail) ++ "])"

end ConfigError

namespace Config

variable [UrlReader]

/-- The configuration, if it can be used. -/
def checked (c : Config) : Except ConfigError Config :=
  match c.errors with
  | [] => .ok c
  | errors => .error (.invalid errors)

/-- The configuration of a document. -/
def ofDocument (t : Text) : Except ConfigError Config :=
  match read? t with
  | some c => c.checked
  | none => .error .malformed

/-- The configuration of the document in a file. -/
def ofFile (files : Files) (path : Text) : Except ConfigError Config :=
  match files.text path with
  | .ok t => ofDocument t
  | .error cause => .error (.file path cause)

end Config

end ReflectCalc
