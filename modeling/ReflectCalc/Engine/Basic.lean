import ReflectCalc.Engine.Answer

/-!
# The engine

How a catalog answers a command. The work is in two steps, of which only the second runs anything:

* `Catalog.prepare` checks the command against the catalog, stage by stage, and comes to an error or
  to a `Prepared`, which is a declaration to describe or one `Call`;
* `Prepared.runWith` gives the declaration, or runs the body of the one method called.

`Catalog.runWith` is both steps, for a given way to run a body on arguments: whoever runs an
`Activation` sees each body that is run, and when. `Catalog.run` just takes the outcome of the body,
and `Catalog.execute` is the text that is sent.
-/

namespace ReflectCalc

namespace TypeDecl

/-- The first declared method with this name and parameters of these kinds, if it needs no
object. -/
def staticMethod (d : TypeDecl) (name : Text) (kinds : List Kind) : Except EngineError Method :=
  match d.findMethod? name kinds with
  | some m => if m.isStatic then .ok m else .error (.notStatic d.name name)
  | none => .error (.unknownMethod d.name name kinds)

end TypeDecl

namespace Outcome

/-- The value of an outcome, or the error that it stands for. -/
def result : Outcome → Except EngineError Value
  | value v => .ok v
  | fault f => .error (.fault f)
  | crash message => .error (.crash message)

end Outcome

/-- A body to be run, and the arguments to run it on. -/
structure Activation where
  body : List Argument → Outcome
  args : List Argument

namespace Activation

/-- What the body comes to on the arguments. -/
def outcome (a : Activation) : Outcome := a.body a.args

end Activation

section Running

variable {m : Type → Type} [Monad m]

namespace Method

/-- Calls a method, whether or not the arguments fit its parameters. A method that needs an object
has no body to run. -/
def invokeWith (exec : Activation → m Outcome) (method : Method) (args : List Argument) :
    m (Except EngineError Value) :=
  match method.body with
  | .static body => return (← exec ⟨body, args⟩).result
  | .onInstance => return .error (.notStatic [] method.name)

/-- Calls a method and takes the outcome of its body. -/
def invoke (method : Method) (args : List Argument) : Except EngineError Value :=
  Id.run (method.invokeWith (fun a => pure a.outcome) args)

end Method

/-- A call in which nothing is left to check. -/
structure Call where
  /-- The type that declares the method. -/
  type : TypeDecl
  method : Method
  args : List Argument

/-- A command that has passed every check. -/
inductive Prepared where
  /-- The declaration of a type is asked for. -/
  | describe (d : TypeDecl)
  /-- A method is to be run. -/
  | call (c : Call)

namespace Prepared

/-- Carries out what was prepared. -/
def runWith (exec : Activation → m Outcome) : Prepared → m (Except EngineError Result)
  | describe d => return .ok (.members d)
  | call c => return (← c.method.invokeWith exec c.args).map .value

end Prepared

namespace Catalog

/-- The declaration of a type, or the error that there is none. -/
def resolve (c : Catalog) (name : Text) : Except EngineError TypeDecl :=
  match c.find? name with
  | some d => .ok d
  | none => .error (.unknownType name)

/-- Checks a query against the catalog: the type, then the values from the first to the last, then
the method. -/
def prepareQuery (c : Catalog) : Query → Except EngineError Prepared
  | .describe type => do return .describe (← c.resolve type)
  | .call type method values => do
    let d ← c.resolve type
    let args ← values.mapM RawValue.read
    let m ← d.staticMethod method (values.map RawValue.kind)
    return .call ⟨d, m, args⟩

/-- Checks a command. Nothing is run. -/
def prepare (c : Catalog) (raw : Text) : Except EngineError Prepared := do
  c.prepareQuery (← Query.ofText raw)

/-- Runs a command. -/
def runWith (exec : Activation → m Outcome) (c : Catalog) (raw : Text) :
    m (Except EngineError Result) :=
  match c.prepare raw with
  | .ok p => p.runWith exec
  | .error e => return .error e

/-- Runs a command and takes the outcome of the body that is run. -/
def run (c : Catalog) (raw : Text) : Except EngineError Result :=
  Id.run (c.runWith (fun a => pure a.outcome) raw)

/-- The answer to a command. -/
def answer (c : Catalog) (raw : Text) : Answer := .ofOutcome (c.run raw)

/-- The text of the answer to a command. -/
def execute (c : Catalog) (raw : Text) : Text := (c.answer raw).text

end Catalog

end Running

end ReflectCalc
