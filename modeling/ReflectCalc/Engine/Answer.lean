import ReflectCalc.Engine.Query
import ReflectCalc.Json.Basic

/-!
# Answers

What a command is answered with, as a JSON object of one member: `value`, or `error` with the
wording of what went wrong. No text in an answer holds a double quote: `sanitize` makes each a
single quote.

* `Result` is what a query comes to in a catalog;
* `Answer.ofOutcome` is the answer to a result or an error, and `Answer.json` its document.
-/

namespace ReflectCalc

/-- The text with single quotes for double quotes. -/
def sanitize (t : Text) : Text := t.replaceChar '"' '\''

/-- What a query comes to. -/
inductive Result where
  /-- The value of a method. -/
  | value (v : Value)
  /-- The declaration of a type. -/
  | members (d : TypeDecl)

/-- What a client is told of a type. -/
structure Description where
  name : Text
  fields : List Text
  methods : List Text
deriving DecidableEq, Repr

namespace Description

/-- The description of a declared type: its members as they are listed, in their order. -/
def ofDecl (d : TypeDecl) : Description where
  name := sanitize d.name
  fields := d.fields.map fun f => sanitize f.text
  methods := d.methods.map fun m => sanitize m.text

/-- A description as a document. -/
def json (d : Description) : Json :=
  .object [("class", .text d.name), ("fields", .list (d.fields.map .text)),
    ("methods", .list (d.methods.map .text))]

end Description

namespace Value

/-- The value with its text sanitized. -/
def sanitized : Value → Value
  | text t => text (sanitize t)
  | v => v

/-- A value as a document. A double that is no finite number has none but null. -/
def json : Value → Json
  | null => .null
  | bool b => .bool b
  | int n => .int n.toInt
  | long n => .int n.toInt
  | double d => if d.isFinite then .double d else .null
  | text t => .text t

end Value

/-- The answer to a command. -/
inductive Answer where
  /-- The value of a method. -/
  | value (v : Value)
  /-- The description of a type. -/
  | description (d : Description)
  /-- The wording of what went wrong. -/
  | error (message : Text)
deriving DecidableEq, Repr

namespace Answer

/-- The answer to a result. -/
def ofResult : Result → Answer
  | .value v => value v.sanitized
  | .members d => description (.ofDecl d)

/-- The answer to a failure. -/
def ofError (e : EngineError) : Answer := error (sanitize e.text)

/-- The answer to what a query came to. -/
def ofOutcome : Except EngineError Result → Answer
  | .ok r => ofResult r
  | .error e => ofError e

/-- Whether the answer is no error. -/
def isSuccess : Answer → Bool
  | error _ => false
  | _ => true

/-- An answer as a document. -/
def json : Answer → Json
  | value v => .object [("value", v.json)]
  | description d => .object [("value", d.json)]
  | error message => .object [("error", .text message)]

/-- An answer as it is sent. -/
def text (a : Answer) : Text := a.json.toText

end Answer

end ReflectCalc
