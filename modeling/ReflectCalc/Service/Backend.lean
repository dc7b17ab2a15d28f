import ReflectCalc.Engine.Basic
import ReflectCalc.Http.Request
import ReflectCalc.Http.Response

/-!
# The backend

The service that executes commands. The path of a request must be `Backend.path`, and its parameter
`commandParam` holds the command.

* `Backend.handleWith` answers a request, given the task that executes commands. A task runs apart
  from the connection and can be lost, and then it says only why;
* `Backend.handle` does so over a catalog. `Catalog.execute` has an answer to every command, so this
  task is not lost by itself.
-/

namespace ReflectCalc

/-- The parameter that holds a command. -/
def commandParam : Text := "comando"

/-- The answer to a request without a command. -/
def missingCommand : Response := .badRequest "Missing 'comando'"

/-- The command of a request, unless it is empty. -/
def Request.command? (r : Request) : Option Text := (r.param? commandParam).filter (· ≠ [])

namespace Backend

/-- The path of the backend. -/
def path : Text := "/compreflex"

/-- The name of the service. -/
def name : Text := "backend"

/-- Answers a request by a task that executes commands, or that is lost for some reason. -/
def handleWith (task : Text → Except Text Text) (r : Request) : Response :=
  if r.path = path then
    match r.command? with
    | some command =>
      match task command with
      | .ok answer => .json answer
      | .error reason => .serverError reason
    | none => missingCommand
  else .notFound "Use /compreflex"

/-- Answers a request. Also the answer to a command that fails has the status 200. -/
def handle (c : Catalog) (r : Request) : Response :=
  handleWith (fun command => .ok (c.execute command)) r

end Backend

end ReflectCalc
