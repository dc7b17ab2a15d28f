import ReflectCalc.Number.Numeral

/-!
# Command lines

The grammar of a command line: flags, some with a value, and either one word or a command of which
the rest of the line belongs to.

A flag is written with two dashes and its long name, its value after `=` or as the next argument; or
with one dash and a letter, several such letters together, the value of the last one attached or as
the next argument. A value that is an argument of its own does not start with a dash. After `--`
there are only words.

* `Grammar.read` reads the arguments, `Reading.value` is the value that a flag has in the end: from
  the line, else from the environment, else by default;
* `Halt` lists what ends a program before it does anything.
-/

namespace ReflectCalc.CommandLine

/-- The variables of the environment. -/
abbrev Env := Text → Option Text

/-- What values a flag takes. -/
inductive ValueKind where
  /-- Any text. -/
  | text
  /-- The path of a file, which is not empty. -/
  | path
  /-- A count that 64 bits hold. -/
  | count
deriving DecidableEq, Repr

/-- Whether a value is of a kind. -/
def ValueKind.accepts (value : Text) : ValueKind → Bool
  | text => true
  | path => value ≠ []
  | count => (Numeral.readUnsigned? 64 value).isSome

/-- A flag. -/
structure Flag where
  /-- The letter after one dash. -/
  short : Option Char := none
  /-- The name after two dashes. -/
  long : Text
  /-- The name of its value and what values there are, for a flag that takes one. -/
  takes : Option (Text × ValueKind) := none
  /-- The variable that gives the value if the line does not. -/
  envName : Option Text := none
  /-- The value without either. -/
  fallback : Option Text := none
  /-- What the flag is for. -/
  purpose : Text
deriving DecidableEq, Repr

namespace Flag

/-- Asks for help. -/
def help : Flag := { short := some 'h', long := "help", purpose := "Print help" }

/-- Asks for the version. -/
def version : Flag := { short := some 'V', long := "version", purpose := "Print version" }

/-- Whether the flag takes a value. -/
def accepts (f : Flag) (value : Text) : Bool := f.takes.all fun t => t.2.accepts value

end Flag

/-- The grammar of a command line. -/
structure Grammar where
  /-- How the program is called. -/
  program : Text
  /-- What the program does. -/
  about : Text
  flags : List Flag
  /-- The name of the word, and what it is for. -/
  word : Option (Text × Text) := none
  /-- The commands, and what they are for. -/
  commands : List (Text × Text) := []
deriving DecidableEq, Repr

/-- What is wrong with a command line. -/
inductive UsageError where
  /-- There is no place for an argument. -/
  | unexpected (arg : Text)
  /-- A flag lacks its value. -/
  | missingValue (f : Flag)
  /-- A flag takes no value. -/
  | unneededValue (f : Flag) (value : Text)
  /-- A flag is given twice. -/
  | repeated (f : Flag)
  /-- A flag does not take this value. -/
  | badValue (f : Flag) (value : Text)
  /-- There is no word, or no command. -/
  | incomplete
deriving DecidableEq, Repr

/-- What ends a program before it does anything. -/
inductive Halt where
  /-- It is asked for help. -/
  | help
  /-- It is asked for its version. -/
  | version
  /-- Its command line is wrong. -/
  | usage (e : UsageError)
deriving DecidableEq, Repr

/-- What has been read of a command line. -/
structure Reading where
  /-- The values of flags by their long names; a flag that takes none has the empty one. -/
  values : List (Text × Text) := []
  word : Option Text := none
  /-- The command and the arguments after it. -/
  command : Option (Text × List Text) := none
deriving DecidableEq, Repr

namespace Reading

/-- Whether a flag has been given. -/
def has (r : Reading) (f : Flag) : Bool := (r.values.lookup f.long).isSome

/-- Adds a flag and its value. -/
def set (r : Reading) (f : Flag) (value : Text) : Except Halt Reading :=
  if f = Flag.help then .error .help
  else if f = Flag.version then .error .version
  else if r.has f then .error (.usage (.repeated f))
  else if f.accepts value then .ok { r with values := r.values ++ [(f.long, value)] }
  else .error (.usage (.badValue f value))

/-- The value of a flag. -/
def value (r : Reading) (env : Env) (f : Flag) : Except Halt (Option Text) :=
  match r.values.lookup f.long, f.envName.bind env with
  | some v, _ => .ok (some v)
  | none, some v =>
    if f.accepts v then .ok (some v) else .error (.usage (.badValue f v))
  | none, none => .ok f.fallback

end Reading

/-! ### Reading -/

/-- Whether an argument cannot be the value of the flag before it. -/
def startsFlag (arg : Text) : Bool := arg.head? = some '-' && arg ≠ ['-']

namespace Grammar

/-- Reads flags given by their letters. Also gives the flag whose value is to follow. -/
def readLetters (g : Grammar) (r : Reading) : Text → Except Halt (Reading × Option Flag)
  | [] => .ok (r, none)
  | c :: rest =>
    match g.flags.find? fun f => f.short = some c with
    | none => .error (.usage (.unexpected ['-', c]))
    | some f =>
      match f.takes, rest with
      | none, rest => do readLetters g (← r.set f []) rest
      | some _, [] => .ok (r, some f)
      | some _, '=' :: value => do return (← r.set f value, none)
      | some _, value => do return (← r.set f value, none)

/-- Reads a flag given by its name. Also gives the flag whose value is to follow. -/
def readName (g : Grammar) (r : Reading) (t : Text) : Except Halt (Reading × Option Flag) :=
  let (name, value) := match Text.splitOnce '=' t with
    | some (name, value) => (name, some value)
    | none => (t, none)
  match g.flags.find? fun f => f.long = name with
  | none => .error (.usage (.unexpected ("--" ++ name)))
  | some f =>
    match f.takes, value with
    | none, none => do return (← r.set f [], none)
    | none, some value => .error (.usage (.unneededValue f value))
    | some _, some value => do return (← r.set f value, none)
    | some _, none => .ok (r, some f)

/-- Reads a word. -/
def readWord (g : Grammar) (r : Reading) (arg : Text) : Except Halt Reading :=
  if g.word.isSome && r.word.isNone then .ok { r with word := some arg }
  else .error (.usage (.unexpected arg))

/-- Reads arguments. The flag is the one whose value is to follow. -/
def readArgs (g : Grammar) :
    Option Flag → (onlyWords : Bool) → Reading → List Text → Except Halt Reading
  | some f, _, _, [] => .error (.usage (.missingValue f))
  | none, _, r, [] => .ok r
  | some f, onlyWords, r, arg :: rest =>
    if startsFlag arg then .error (.usage (.missingValue f))
    else do readArgs g none onlyWords (← r.set f arg) rest
  | none, true, r, arg :: rest => do readArgs g none true (← g.readWord r arg) rest
  | none, false, r, arg :: rest =>
    if g.commands.any fun c => c.1 = arg then .ok { r with command := some (arg, rest) }
    else if startsFlag arg then
      match arg with
      | ['-', '-'] => readArgs g none true r rest
      | '-' :: '-' :: name => do
        let (r, awaiting) ← g.readName r name
        readArgs g awaiting false r rest
      | letters => do
        let (r, awaiting) ← g.readLetters r letters.tail
        readArgs g awaiting false r rest
    else do readArgs g none false (← g.readWord r arg) rest

/-- Reads a command line, which must give the word or a command, if there are any. -/
def read (g : Grammar) (args : List Text) : Except Halt Reading := do
  let r ← readArgs g none false {} args
  if g.word.isSome && r.word.isNone || g.commands ≠ [] && r.command.isNone then
    throw (.usage .incomplete)
  return r

end Grammar

end ReflectCalc.CommandLine
