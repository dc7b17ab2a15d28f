import ReflectCalc.Command.Arguments

/-!
# Commands

A command is written `name(argument, …)`. `Command.parse` reads one and `Command.text` writes one.
The first opening and the last closing parenthesis hold the arguments; what follows the last one has
no meaning.
-/

namespace ReflectCalc

/-- A command: the name of an operation, and its arguments as they are written. -/
structure Command where
  operation : Text
  arguments : List Text
deriving DecidableEq, Repr

/-- Why a text is no command. -/
inductive CommandError where
  /-- There is nothing but white space. -/
  | empty
  /-- There is no pair of parentheses. -/
  | malformed
deriving DecidableEq, Repr

namespace CommandError

/-- The wording of an error. -/
def text : CommandError → Text
  | empty => "Empty command"
  | malformed => "Malformed command"

end CommandError

namespace Command

/-- What stands before the first `(`, and what stands between it and the last `)`. -/
def parenthesised? (t : Text) : Option (Text × Text) := do
  let (front, rest) ← Text.splitOnce '(' t
  let (inside, _) ← Text.splitLast ')' rest
  return (front, inside)

/-- Reads a command. -/
def parse (raw : Text) : Except CommandError Command :=
  if raw.trim = [] then .error .empty
  else match parenthesised? raw.trim with
    | some (front, inside) => .ok ⟨front.trim, Arguments.split inside⟩
    | none => .error .malformed

/-- Writes a command. -/
def text (c : Command) : Text := c.operation ++ "(" ++ Text.join "," c.arguments ++ ")"

end Command

end ReflectCalc
