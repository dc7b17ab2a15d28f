import ReflectCalc.Catalog.Basic
import ReflectCalc.Command.Basic

/-!
# Queries

The four operations of commands, the errors that answer a command, and the `Query` that a command
puts to a catalog once its operation, the number of its arguments and its type tokens are known. No
catalog is needed up to there.

* `Query.ofCommand` reads a query off a command;
* `EngineError.text` is the wording of every error, also of those that only the catalog can tell.
-/

namespace ReflectCalc

/-- What a command can ask for. -/
inductive Operation where
  /-- The members of a type. -/
  | describe
  /-- A call without values. -/
  | invoke
  /-- A call with one value. -/
  | invokeUnary
  /-- A call with two values. -/
  | invokeBinary
deriving DecidableEq, Repr

namespace Operation

/-- The name of an operation in a command. -/
def name : Operation → Text
  | describe => "Class"
  | invoke => "invoke"
  | invokeUnary => "unaryInvoke"
  | invokeBinary => "binaryInvoke"

/-- All operations. -/
def all : List Operation := [describe, invoke, invokeUnary, invokeBinary]

/-- The operation of a name. -/
def ofName? (name : Text) : Option Operation := all.find? fun op => op.name == name

/-- How many arguments an operation takes: a type, then a method for a call, then a type token and
the text of each value. -/
def arity : Operation → Nat
  | describe => 1
  | invoke => 2
  | invokeUnary => 4
  | invokeBinary => 6

end Operation

/-- Why a command has no value. -/
inductive EngineError where
  /-- The text is no command. -/
  | parse (e : CommandError)
  /-- There is no operation of this name. -/
  | unknownOperation (name : Text)
  /-- The operation takes another number of arguments. -/
  | arity (op : Operation)
  /-- The token names no kind of value. -/
  | unsupportedType (token : Text)
  /-- The text is no value of this kind. -/
  | badValue (kind : Kind) (raw : Text)
  /-- There is no type of this name. -/
  | unknownType (name : Text)
  /-- The type has no method of this name with parameters of these kinds. -/
  | unknownMethod (type method : Text) (kinds : List Kind)
  /-- The method needs an object. -/
  | notStatic (type method : Text)
  /-- The body of the method raised a fault. -/
  | fault (f : Fault)
  /-- The body of the method crashed, with a text if it left one. -/
  | crash (message : Option Text)
deriving DecidableEq, Repr

namespace EngineError

/-- A number of arguments in words. -/
def countText (n : Nat) : Text :=
  Numeral.ofNat n ++ (if n = 1 then " argument" else " arguments")

/-- The declared types that kinds bind to, as they are listed. -/
def paramsText (kinds : List Kind) : Text := Text.join ", " (kinds.map fun k => k.param.text)

/-- The wording of an error. -/
def text : EngineError → Text
  | parse e => e.text
  | unknownOperation name => "Unknown operation: " ++ name
  | arity op => op.name ++ " expects " ++ countText op.arity
  | unsupportedType token => "IllegalArgumentException: Unsupported type: " ++ token
  | badValue kind raw => "ValueCoercionFailure: cannot parse '" ++ raw ++ "' as " ++ kind.word
  | unknownType name => "TypeResolutionFailure: " ++ name
  | unknownMethod type method kinds =>
    "MethodResolutionFailure: " ++ type ++ "." ++ method ++ "(" ++ paramsText kinds ++ ")"
  | notStatic type method =>
    "NotStatic: only static methods allowed (" ++ type ++ "." ++ method ++ ")"
  | fault f => "InvocationFault: " ++ f.text
  | crash message => "InvocationFault: Panic: " ++ message.getD "native function panicked"

end EngineError

/-- A value as a command passes it: its kind, and its text as it is written. -/
structure RawValue where
  kind : Kind
  raw : Text
deriving DecidableEq, Repr

namespace RawValue

/-- Pairs the kind that a token names with the text of a value. -/
def ofToken (token raw : Text) : Except EngineError RawValue :=
  match Kind.ofToken? token with
  | some kind => .ok ⟨kind, raw⟩
  | none => .error (.unsupportedType token.trim)

/-- Reads the value. -/
def read (v : RawValue) : Except EngineError Argument :=
  match Argument.read? v.kind v.raw with
  | some arg => .ok arg
  | none => .error (.badValue v.kind v.raw)

end RawValue

/-- What a command puts to a catalog. -/
inductive Query where
  /-- The members of a type. -/
  | describe (type : Text)
  /-- The value of a method. -/
  | call (type method : Text) (values : List RawValue)
deriving DecidableEq, Repr

namespace Query

/-- The type that a query is about. -/
def type : Query → Text
  | describe type => type
  | call type _ _ => type

/-- The query of an operation with its arguments. -/
def ofOperation : Operation → List Text → Except EngineError Query
  | .describe, [type] => .ok (describe type)
  | .invoke, [type, method] => .ok (call type method [])
  | .invokeUnary, [type, method, token, raw] => do
    let value ← RawValue.ofToken token raw
    return call type method [value]
  | .invokeBinary, [type, method, token, raw, token', raw'] => do
    let value ← RawValue.ofToken token raw
    let value' ← RawValue.ofToken token' raw'
    return call type method [value, value']
  | op, _ => .error (.arity op)

/-- The query of a command. -/
def ofCommand (c : Command) : Except EngineError Query :=
  match Operation.ofName? c.operation with
  | some op => ofOperation op c.arguments
  | none => .error (.unknownOperation c.operation)

/-- The query of a text. -/
def ofText (raw : Text) : Except EngineError Query :=
  match Command.parse raw with
  | .ok c => ofCommand c
  | .error e => .error (.parse e)

end Query

end ReflectCalc
