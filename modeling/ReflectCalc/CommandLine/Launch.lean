import ReflectCalc.CommandLine.Help
import ReflectCalc.Config.Source
import ReflectCalc.Service.Startup
import ReflectCalc.Url.Ascii

/-!
# Launching a server

The program that runs one of the two services. Its command line names the role, can name a
configuration document, and can override an address or the URL of the backend.

* `Launch.Plan.read` reads the command line;
* `Launch.Plan.config` is the configuration: the document if there is one, then the overrides. Both
  are checked, and only what the overrides spoil is told line by line;
* `Launch.run` starts the server, or says why it does not run.
-/

namespace ReflectCalc.Launch

open CommandLine

/-- The name and the version of the program. -/
def versionText : Text := "compreflex 0.1.0"

/-! ### The command line -/

/-- The configuration document. It can be given before or after the command. -/
def configFlag : Flag where
  short := some 'c'
  long := "config"
  takes := some ("CONFIG", .path)
  envName := some "COMPREFLEX_CONFIG"
  purpose := "TOML configuration file; defaults apply when omitted"

/-- The address of a service. -/
def bindFlag (s : Setting) : Flag where
  short := some 'b'
  long := "bind"
  takes := some ("BIND", .text)
  purpose := "Override " ++ s.name

/-- The URL of the backend. -/
def backendUrlFlag : Flag where
  long := "backend-url"
  takes := some ("BACKEND_URL", .text)
  envName := some "COMPREFLEX_BACKEND_URL"
  purpose := "Override " ++ Setting.name .backendUrl

/-- What the command of a role does. -/
def about : Role → Text
  | .backend => "Run the execution backend (serves /compreflex)"
  | .facade => "Run the facade (serves /cliente and /consulta)"

/-- The command that asks for help. -/
def helpCommand : Text := "help"

/-- The command line of the program. -/
def grammar : Grammar where
  program := "compreflex"
  about := "Reflective command calculator servers"
  flags := [configFlag, Flag.help, Flag.version]
  commands := [
    (Backend.name, about .backend), (Facade.name, about .facade),
    (helpCommand, "Print this message or the help of the given subcommand(s)")]

/-- The address flag of a role. -/
def roleBindFlag : Role → Flag
  | .backend => bindFlag .backendAddress
  | .facade => bindFlag .facadeAddress

/-- The rest of the command line, after the command of a role. -/
def roleGrammar (role : Role) : Grammar where
  program := "compreflex " ++ (match role with | .backend => Backend.name | .facade => Facade.name)
  about := about role
  flags :=
    match role with
    | .backend => [roleBindFlag role, configFlag, Flag.help]
    | .facade => [roleBindFlag role, configFlag, backendUrlFlag, Flag.help]

/-- The role that a command names. -/
def role? (command : Text) : Option Role :=
  if command = Backend.name then some .backend
  else if command = Facade.name then some .facade
  else none

/-- What is to be launched. -/
structure Plan where
  role : Role
  /-- The path of the configuration document. -/
  document : Option Text
  /-- The address that overrides the configured one. -/
  address : Option Text
  /-- The URL of the backend that overrides the configured one. -/
  backendUrl : Option Text
deriving DecidableEq, Repr

/-- How a program ends that answers a request for help. -/
def helpExit (env : Env) : List Text → Exit
  | [] => Halt.exit grammar env versionText .help
  | command :: _ =>
    match role? command with
    | some role => Halt.exit (roleGrammar role) env versionText .help
    | none =>
      if command = helpCommand then Halt.exit grammar env versionText .help
      else Halt.exit grammar env versionText (.usage (.unexpected command))

/-- Reads the command line, or says how the program ends. -/
def Plan.read (env : Env) (args : List Text) : Except Exit Plan := do
  let atTop := Halt.exit grammar env versionText
  let top ← (grammar.read args).mapError atTop
  let (command, rest) := top.command.getD ([], [])
  let some role := role? command | throw (helpExit env rest)
  let atRole := Halt.exit (roleGrammar role) env versionText
  let r ← ((roleGrammar role).read rest).mapError atRole
  let outer ← (top.value env configFlag).mapError atTop
  let inner ← (r.value (fun _ => none) configFlag).mapError atRole
  let url ← match role with
    | .backend => pure none
    | .facade => (r.value env backendUrlFlag).mapError atRole
  return {
    role := role
    document := inner <|> outer
    address := ← (r.value env (roleBindFlag role)).mapError atRole
    backendUrl := url }

/-! ### The configuration -/

/-- The configuration with the overrides of a plan. -/
def Plan.override (p : Plan) (c : Config) : Config :=
  let c := match p.address with
    | some address => c.withAddress address p.role
    | none => c
  match p.backendUrl with
  | some url => { c with backendUrl := url }
  | none => c

/-- How a program ends that has met an error. -/
def failure (detail : Text) : Exit where
  status := 1
  err := "Error: " ++ detail ++ "\n"

/-- The configuration of a plan, or how the program ends. -/
def Plan.config (p : Plan) (files : Files) : Except Exit Config := do
  let c ← match p.document with
    | some path => (Config.ofFile files path).mapError fun e => failure e.detail
    | none => pure Config.standard
  (p.override c).checked.mapError fun e =>
    let lines : Text := (p.override c).errors.flatMap fun e => "config error: " ++ e.text ++ "\n"
    let exit := failure e.detail
    { exit with err := lines ++ exit.err }

/-! ### Running -/

/-- How a program ends that cannot start its server. More slots than can be counted are a fault of
the program, and not an error of the system. -/
def startupExit (e : StartupError) : Exit :=
  match e with
  | .tooManySlots => { status := 101, err := e.text ++ "\n" }
  | _ => failure e.detail

/-- Launches a server. -/
def run (m : Machine) (files : Files) (env : Env) (args : List Text) :
    Except Exit (Config × Server) := do
  let plan ← Plan.read env args
  let config ← plan.config files
  let server ← (Server.start m config plan.role).mapError startupExit
  return (config, server)

end ReflectCalc.Launch
