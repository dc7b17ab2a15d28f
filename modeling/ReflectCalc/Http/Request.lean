import ReflectCalc.Http.Form
import ReflectCalc.Text.Lines

/-!
# Requests

A request is a method, a target and headers; it has no body. The target is a path, and a query after
the first `?`.

* `Request.ofTarget` splits a target, `Request.param?` and `Request.header?` look things up;
* `Request.read` reads the head of a request from a stream of bytes, of which it looks at `bound`
  bytes at most.
-/

namespace ReflectCalc

/-- A request. -/
structure Request where
  method : Text
  path : Text
  /-- What follows the first `?` of the target. -/
  query : Text
  headers : Fields
deriving DecidableEq, Repr

/-- Why no request can be read. -/
inductive RequestError where
  /-- The request line is empty. -/
  | empty
  /-- The bound is reached within a line. -/
  | tooLong (bound : Nat)
  /-- The bytes of a line are no UTF-8. -/
  | notUtf8 (flaw : Utf8.Flaw)
  /-- Another reason. -/
  | other (reason : Text)
deriving DecidableEq, Repr

namespace RequestError

/-- The wording of an error. -/
def text : RequestError → Text
  | empty => "Malformed request: empty request"
  | tooLong bound =>
    "Malformed request: header section exceeds " ++ Numeral.ofNat bound ++ " bytes"
  | notUtf8 flaw => flaw.text
  | other reason => "Malformed request: " ++ reason

end RequestError

namespace Request

/-- The request for a target. -/
def ofTarget (method target : Text) (headers : Fields) : Request :=
  match Text.splitOnce '?' target with
  | some (path, query) => ⟨method, path, query, headers⟩
  | none => ⟨method, target, [], headers⟩

/-- The decoded parameters. -/
def params (r : Request) : Fields := Form.fields r.query

/-- A decoded parameter. -/
def param? (r : Request) (name : Text) : Option Text := r.params.get? name

/-- The value of a header. -/
def header? (r : Request) (name : Text) : Option Text := r.headers.header? name

/-! ### Reading -/

/-- A list without the empty texts at its end. -/
def dropTrailingEmpty (words : List Text) : List Text :=
  (words.reverse.dropWhile (· = [])).reverse

/-- The method and the target on a request line, which single spaces divide. What is missing is
`GET` and `/`; a third word and more have no meaning. -/
def readRequestLine (line : Text) : Text × Text :=
  match dropTrailingEmpty (Text.splitAll ' ' line) with
  | [] => ("GET", "/")
  | [method] => (method, "/")
  | method :: target :: _ => (method, target)

/-- The text of a line without its end. `atBound` says that the stream was cut behind these lines,
so a line without an end may be cut short. -/
def readLine (bound : Nat) (atBound : Bool) (line : Bytes) : Except RequestError Text :=
  match Utf8.decode? line with
  | none => .error (.notUtf8 (Utf8.flaw line))
  | some t => if atBound ∧ t.getLast? ≠ some '\n' then .error (.tooLong bound) else .ok t.chomp

/-- Reads headers up to a blank line or the end. -/
def readHeaders (bound : Nat) (atBound : Bool) : Fields → List Bytes → Except RequestError Fields
  | headers, [] => .ok headers
  | headers, line :: lines => do
    match ← readLine bound atBound line with
    | [] => return headers
    | t =>
      match Fields.readLine? t with
      | some (name, value) => readHeaders bound atBound (headers.insert name value) lines
      | none => readHeaders bound atBound headers lines

/-- Reads a request off its lines. -/
def ofLines (bound : Nat) (atBound : Bool) (lines : List Bytes) : Except RequestError Request := do
  match ← readLine bound atBound (lines.headD []) with
  | [] => throw .empty
  | line =>
    let (method, target) := readRequestLine line
    return ofTarget method target (← readHeaders bound atBound [] lines.tail)

/-- Reads the head of a request from the first `bound` bytes of a stream. -/
def read (bound : Nat) (stream : Bytes) : Except RequestError Request :=
  ofLines bound (bound ≤ stream.length) (Lines.split 0x0A (stream.take bound))

end Request

end ReflectCalc
