import ReflectCalc.CommandLine.Grammar

/-!
# Help

What a program says about its own command line.

* `Grammar.help` is the answer to a request for help: what the program does, how to call it, and
  tables of its words, commands and flags;
* `Grammar.complaint` is what is said of a command line that is wrong;
* `Exit` is what a program leaves behind, and `Halt.exit` that of one that ends before it does
  anything.
-/

namespace ReflectCalc.CommandLine

/-- What a program leaves behind: its status and what it has printed. -/
structure Exit where
  status : Nat
  out : Text := []
  err : Text := []
deriving DecidableEq, Repr

/-! ### Tables -/

/-- How many columns a line has. -/
def lineWidth : Nat := 100

/-- Rows of two columns. A long description stands on a line of its own if the first column is wide,
and then all do. -/
def twoColumns (rows : List (Text × Text)) : Text :=
  let width := (rows.map fun r => r.1.length).foldl max 0
  let taken := width + 12
  let apart := decide (lineWidth * 2 < taken * 5 ∧ taken ≤ lineWidth) &&
    rows.any fun r => decide (lineWidth < taken + r.2.length)
  rows.flatMap fun (name, purpose) =>
    if apart then "  " ++ name ++ "\n          " ++ purpose ++ "\n"
    else "  " ++ name ++ List.replicate (width + 2 - name.length) ' ' ++ purpose ++ "\n"

/-- A table under a title. One without rows is left out. -/
def titled (title : Text) (rows : List (Text × Text)) : Text :=
  if rows = [] then [] else '\n' :: title ++ ":\n" ++ twoColumns rows

namespace Flag

/-- How a flag is written. -/
def usage (f : Flag) : Text :=
  let letter := match f.short with
    | some c => ['-', c, ',', ' ']
    | none => "    "
  let value := match f.takes with
    | some (name, _) => " <" ++ name ++ ">"
    | none => []
  letter ++ "--" ++ f.long ++ value

/-- What a flag is for, and where its value comes from if the line does not give it. -/
def description (env : Env) (f : Flag) : Text :=
  let source := match f.envName with
    | some name => " [env: " ++ name ++ '=' :: (env name).getD [] ++ "]"
    | none => []
  let fallback := match f.fallback with
    | some value => " [default: " ++ value ++ "]"
    | none => []
  f.purpose ++ source ++ fallback

end Flag

namespace Grammar

/-- How the program is called. -/
def call (g : Grammar) : Text :=
  let word := match g.word with
    | some (name, _) => " <" ++ name ++ ">"
    | none => if g.commands = [] then [] else " <COMMAND>"
  "Usage: " ++ g.program ++ " [OPTIONS]" ++ word ++ "\n"

/-- The answer to a request for help. -/
def help (g : Grammar) (env : Env) : Text :=
  g.about ++ "\n\n" ++ g.call ++ titled "Commands" g.commands ++
    titled "Arguments" (g.word.toList.map fun (name, purpose) => ('<' :: name ++ ">", purpose)) ++
    titled "Options" (g.flags.map fun f => (f.usage, f.description env))

/-- What is said of a command line that is wrong. -/
def complaint (g : Grammar) (e : UsageError) : Text :=
  let cause : Text := match e with
    | .unexpected arg => "unexpected argument '" ++ arg ++ "' found"
    | .missingValue f => "a value is required for '" ++ f.usage ++ "' but none was supplied"
    | .unneededValue f value =>
      "unexpected value '" ++ value ++ "' for '--" ++ f.long ++ "' found; no more were expected"
    | .repeated f => "the argument '" ++ f.usage ++ "' cannot be used multiple times"
    | .badValue f value => "invalid value '" ++ value ++ "' for '" ++ f.usage ++ "'"
    | .incomplete => "the line is not complete"
  "error: " ++ cause ++ "\n\n" ++ g.call ++ "\nFor more information, try '--help'.\n"

end Grammar

/-- What a program leaves behind that ends before it does anything. The name is the one that goes
with the version. -/
def Halt.exit (g : Grammar) (env : Env) (name : Text) : Halt → Exit
  | .help => { status := 0, out := g.help env }
  | .version => { status := 0, out := name ++ "\n" }
  | .usage e => { status := 2, err := g.complaint e }

end ReflectCalc.CommandLine
