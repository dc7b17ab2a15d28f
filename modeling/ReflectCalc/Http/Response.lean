import ReflectCalc.Http.Fields
import ReflectCalc.Json.Basic
import ReflectCalc.Text.Lines
import ReflectCalc.Text.Quoted
import ReflectCalc.Text.Utf8

/-!
# Responses

A response is a status with a reason, headers in their order, and a body.

* `Response.make` builds one, with the four headers that every response of this program has;
  `Response.json`, `Response.html`, `Response.notFound` and others are special cases;
* `Response.wire` writes one, `Response.toBytes` are the bytes that are sent;
* `Response.parse` reads one from all the bytes that were received.
-/

namespace ReflectCalc

/-- A response. -/
structure Response where
  status : UInt16
  reason : Text
  headers : Fields
  body : Text
deriving DecidableEq, Repr

/-- Why bytes are no response. -/
inductive ResponseError where
  /-- There is no blank line. -/
  | endless
  /-- The head is no UTF-8. -/
  | headNotUtf8
  /-- The first line names no version or no status. -/
  | badStatusLine (line : Text)
  /-- The body is no UTF-8. -/
  | bodyNotUtf8
deriving DecidableEq, Repr

namespace ResponseError

/-- What an error says after the words common to all. -/
def reason : ResponseError → Text
  | endless => "missing end of headers"
  | headNotUtf8 => "headers are not valid UTF-8"
  | badStatusLine line => "bad status line: " ++ line
  | bodyNotUtf8 => "body is not valid UTF-8"

/-- The wording of an error. -/
def text (e : ResponseError) : Text := "Malformed response: " ++ e.reason

/-- An error with all its parts. -/
def detail (e : ResponseError) : Text := "MalformedResponse(" ++ Text.quoted e.reason ++ ")"

end ResponseError

namespace Response

/-! ### Building -/

/-- The reason that goes with a status. -/
def reasonPhrase (status : UInt16) : Text :=
  if status = 200 then "OK"
  else if status = 400 then "Bad Request"
  else if status = 404 then "Not Found"
  else if status = 500 then "Internal Server Error"
  else "Unknown"

/-- A response whose headers give the type and the length in bytes of its body, say that the
connection is closed, and allow any origin to read it. -/
def make (status : UInt16) (reason contentType body : Text) : Response where
  status := status
  reason := reason
  headers := [
    ("Content-Type", contentType),
    ("Content-Length", Numeral.ofNat (Utf8.encode body).length),
    ("Connection", "close"),
    ("Access-Control-Allow-Origin", "*")]
  body := body

/-- A JSON text. -/
def json (body : Text) : Response := make 200 "OK" "application/json; charset=UTF-8" body

/-- A plain text. -/
def plain (body : Text) : Response := make 200 "OK" "text/plain; charset=UTF-8" body

/-- A page. -/
def html (body : Text) : Response := make 200 "OK" "text/html; charset=UTF-8" body

/-- The body of an error: an object whose one member is the message, with single quotes for double
quotes. -/
def errorBody (message : Text) : Text :=
  (Json.object [("error", .text (message.replaceChar '"' '\''))]).toText

/-- An error with a message. -/
def error (status : UInt16) (message : Text) : Response :=
  make status (reasonPhrase status) "application/json; charset=UTF-8" (errorBody message)

/-- There is nothing at this path. -/
def notFound (message : Text) : Response := error 404 message

/-- The request lacks something. -/
def badRequest (message : Text) : Response := error 400 message

/-- Something failed on this side. -/
def serverError (message : Text) : Response := error 500 message

/-- The value of the first header of this name, whatever the case of its letters. -/
def header? (r : Response) (name : Text) : Option Text := r.headers.getIgnoringCase? name

/-! ### Writing -/

/-- The first line. -/
def statusLine (r : Response) : Text :=
  "HTTP/1.1 " ++ Numeral.ofNat r.status.toNat ++ ' ' :: r.reason

/-- A header as a line. -/
def headerLine (field : Text × Text) : Text := field.1 ++ ": " ++ field.2 ++ "\r\n"

/-- Everything before the body. -/
def head (r : Response) : Text :=
  r.statusLine ++ "\r\n" ++ r.headers.flatMap headerLine ++ "\r\n"

/-- A response as it is sent. -/
def wire (r : Response) : Text := r.head ++ r.body

/-- The bytes of a response. -/
def toBytes (r : Response) : Bytes := Utf8.encode r.wire

/-! ### Reading -/

/-- The bytes before the first occurrence of `mark` and the bytes after it. -/
def cutAt? (mark : Bytes) : Bytes → Option (Bytes × Bytes)
  | [] => if mark = [] then some ([], []) else none
  | b :: bs =>
    if mark.isPrefixOf (b :: bs) then some ([], (b :: bs).drop mark.length)
    else (cutAt? mark bs).map fun (front, rest) => (b :: front, rest)

/-- The head and the body. A blank line with carriage returns divides them, wherever it is; only if
there is none does a blank line without them. -/
def splitHead? (raw : Bytes) : Option (Bytes × Bytes) :=
  cutAt? [0x0D, 0x0A, 0x0D, 0x0A] raw <|> cutAt? [0x0A, 0x0A] raw

/-- The status and the reason on the first line. -/
def readStatusLine? (line : Text) : Option (UInt16 × Text) := do
  let (version, rest) ← Text.splitOnce ' ' line
  if version.startsWith "HTTP/" then
    let (code, reason) := (Text.splitOnce ' ' rest).getD (rest, [])
    let status ← Numeral.readUnsigned? 16 code
    return (UInt16.ofNat status, reason)
  else none

/-- The length that the headers declare, if it is a number of 64 bits. -/
def declaredLength? (headers : Fields) : Option Nat := do
  Numeral.readUnsigned? 64 (← headers.getIgnoringCase? "Content-Length")

/-- The bytes of the body: as many as declared, or all if there are not so many. -/
def cutBody (headers : Fields) (body : Bytes) : Bytes :=
  match declaredLength? headers with
  | some n => body.take n
  | none => body

/-- Reads a response. -/
def parse (raw : Bytes) : Except ResponseError Response := do
  let some (head, body) := splitHead? raw | throw .endless
  let some head := Utf8.decode? head | throw .headNotUtf8
  let line := head.lines.headD []
  let some (status, reason) := readStatusLine? line | throw (.badStatusLine line)
  let headers := head.lines.tail.filterMap Fields.readLine?
  let some body := Utf8.decode? (cutBody headers body) | throw .bodyNotUtf8
  return ⟨status, reason, headers, body⟩

end Response

end ReflectCalc
