import ReflectCalc.Service.Backend
import ReflectCalc.Service.ClientPage
import ReflectCalc.Service.Forwarder

/-!
# The facade

The service for browsers: a page, and a path whose commands are passed on to a backend.

* `Facade.command` is the command that a request wants to be passed on, or the response to one that
  wants something else;
* `Facade.relay` is the response to what came back;
* `Facade.handle` is both, for a given way to exchange bytes with the backend.
-/

namespace ReflectCalc.Facade

/-- The name of the service. -/
def name : Text := "facade"

/-- The path of the page. -/
def pagePath : Text := "/cliente"

/-- The path whose commands are passed on. -/
def queryPath : Text := "/consulta"

/-- The command to be passed on, or the response that needs no backend. -/
def command (r : Request) : Except Response Text :=
  if r.path = pagePath then .error (.html clientPage)
  else if r.path = queryPath then
    match r.command? with
    | some command => .ok command
    | none => .error missingCommand
  else .error (.notFound "Use /cliente or /consulta")

/-- The response to what came back from the backend. -/
def relay : Except ForwardError Text → Response
  | .ok body => .json body
  | .error e => .serverError e.text

/-- Answers a request. -/
def handle (f : Forwarder) (exchange : Bytes → Exchange) (r : Request) : Response :=
  match command r with
  | .ok command => relay (f.forward exchange command)
  | .error response => response

end ReflectCalc.Facade
