import ReflectCalc.Http.Request
import ReflectCalc.Http.Response
import ReflectCalc.Net.OsError
import ReflectCalc.Number.Span

/-!
# Connections

A connection carries one request and at most one response.

* `Connection.isSettled` says that what has arrived is enough: nothing that may follow can change
  how the request reads;
* `Connection.respond` is what is written back to a client that has sent these bytes.
-/

namespace ReflectCalc

/-- Why a connection ends without a response. -/
inductive ConnectionError where
  /-- The head of the request is not there in time. -/
  | readTimeout (limit : Span)
  /-- The request cannot be read. -/
  | request (e : RequestError)
  /-- The connection breaks. -/
  | transport (e : OsError)
deriving DecidableEq, Repr

namespace ConnectionError

/-- The wording of an error. -/
def text : ConnectionError → Text
  | readTimeout limit => "timed out after " ++ limit.text ++ " waiting for the request head"
  | request e => e.text
  | transport e => "transport failure: " ++ e.text

end ConnectionError

namespace Connection

/-- Whether a line decides how the request reads: it is complete, and blank or no UTF-8. -/
def isDecisive (line : Bytes) : Bool :=
  line.getLast? == some 0x0A &&
    match Utf8.decode? line with
    | some t => Text.chomp t == []
    | none => true

/-- Whether the reader asks for no more bytes than these. -/
def isSettled (bound : Nat) (received : Bytes) : Bool :=
  bound ≤ received.length || (Lines.split 0x0A received).any isDecisive

/-- What is written back to a client that has sent these bytes. A request that cannot be read gets
no response. -/
def respond (handle : Request → Response) (bound : Nat) (received : Bytes) :
    Except ConnectionError Bytes :=
  match Request.read bound received with
  | .ok r => .ok (handle r).toBytes
  | .error e => .error (.request e)

end Connection

end ReflectCalc
