import ReflectCalc.Number.Layout
import ReflectCalc.Number.Read

/-!
# Kinds, arguments and values

A command names the kind of each value it passes; reading the value's text at that kind gives an
`Argument`. Declared types are `TypeRef`s, of which three can be bound by an argument, and a call
returns a `Value`.
-/

namespace ReflectCalc

/-- The kinds of value a command can pass. -/
inductive Kind where
  /-- A 32-bit integer. -/
  | int
  /-- A double. -/
  | double
  /-- A text. -/
  | text
deriving DecidableEq, Repr

/-- A declared type, as it stands in the signature of a field or a method. -/
inductive TypeRef where
  | void
  | boolean
  | int
  | long
  | double
  | string
  /-- Any other type, by its full name. It differs from the six above even if the name is theirs. -/
  | named (name : Text)
deriving DecidableEq, Repr

namespace TypeRef

/-- The name of a declared type. -/
def text : TypeRef → Text
  | void => "void"
  | boolean => "boolean"
  | int => "int"
  | long => "long"
  | double => "double"
  | string => "java.lang.String"
  | named name => name

end TypeRef

namespace Kind

/-- The word that names a kind in a command. -/
def word : Kind → Text
  | int => "int"
  | double => "double"
  | text => "string"

/-- The kind that a word names, whatever the case of its ASCII letters and the white space around
it. -/
def ofToken? (token : Text) : Option Kind :=
  let word := token.trim.lowerAscii
  if word = ("int" : Text) then some int
  else if word = ("double" : Text) then some double
  else if word = ("string" : Text) then some text
  else none

/-- The one declared type that a kind binds to. -/
def param : Kind → TypeRef
  | int => .int
  | double => .double
  | text => .string

end Kind

/-- A value passed to a method. -/
inductive Argument where
  | int (n : Int32)
  | double (d : Double)
  | text (t : Text)
deriving DecidableEq, Repr

namespace Argument

/-- The kind of an argument. -/
def kind : Argument → Kind
  | int _ => .int
  | double _ => .double
  | text _ => .text

/-- Whether white space has been left out and the text is its own quotation: it starts and ends with
the same quote mark, and these are two characters. -/
def isQuoted : Text → Bool
  | [] => false
  | q :: t => (q = '"' || q = '\'') && t.getLast? == some q

/-- The text without the white space around it and without one pair of quote marks around that. -/
def unquote (raw : Text) : Text :=
  let t := raw.trim
  if isQuoted t then t.tail.dropLast else t

/-- Reads the text of a value at a kind. -/
def read? (kind : Kind) (raw : Text) : Option Argument :=
  match kind with
  | .int => (Numeral.readInt32? 10 raw.trim).map int
  | .double => (Double.read? raw).map double
  | .text => some (text (unquote raw))

end Argument

/-- The value that a call returns. -/
inductive Value where
  | null
  | bool (b : Bool)
  | int (n : Int32)
  | long (n : Int64)
  | double (d : Double)
  | text (t : Text)
deriving DecidableEq, Repr

end ReflectCalc
