import StorageRouting.Console.Completion
import StorageRouting.Console.Run

/-
  The program: its options, its environment and its runs.

  Key definitions include:
    * `SharedOptions`
    * `CommandLine`
    * `CommandLine.read`
    * `ProgramOutcome`
    * `CommandLine.logOptions`
    * `CommandLine.run`
-/

------------------------------------------------------------
-- Options
------------------------------------------------------------

namespace StorageRouting

/- The environment of a program: its variables. -/
abbrev Variables :=
  List (String × String)

namespace Variables

/- The variable that names the backend. -/
def backendName : String :=
  "DYNSTORE_BACKEND"

/- The variable that asks for a log without colors. -/
def noColorsName : String :=
  "NO_COLOR"

/- How the log is written when it is to show warnings. -/
def log (vars : Variables) : LogOptions where
  level := some .warning
  colors := (vars.lookup noColorsName).all String.isEmpty

/- What the location of the configuration file depends on. -/
def location (vars : Variables) : ConfigLocation.Environment where
  override := vars.lookup ConfigLocation.overrideName
  configHome := vars.lookup "XDG_CONFIG_HOME"
  home := (vars.lookup "HOME").getD ""

end Variables

/- What can be given to every command. -/
structure SharedOptions where
  session : SessionOptions
  json : Bool
  noColor : Bool
  quiet : Bool
  debug : Bool
deriving DecidableEq, Repr, Inhabited

namespace SharedOptions

/- The options that every command has. -/
def specs : List OptionSpec :=
  [{ OptionSpec.text "config" none with accepts := Command.isPath },
    .text "backend" (some 'b'), .flag "strict" none,
    { name := "header", short := some 'H', kind := .values
      accepts := fun s => (HeaderOption.parse s).isOk },
    .flag "json" none, .flag "no-color" none,
    .flag "quiet" (some 'q'), .flag "debug" none]

/- The values of the innermost command that was given some. -/
def valuesOf
    (levels : List (String × Matched))
    (name : String) : Option (List String) :=
  levels.reverse.findSome? (fun level => level.2.values? name)

/-
  A command that was given no path reads the one of the
  environment, and an empty one is a mistake, whatever the
  commands around it were given.
-/
def pathsAreSound
    (fromEnvironment : Option String)
    (levels : List (String × Matched)) : Bool :=
  fromEnvironment.all Command.isPath ||
    levels.all (fun level => level.2.has "config")

/- The options that were given, else those of the environment. -/
def ofLevels?
    (vars : Variables)
    (levels : List (String × Matched)) : Option SharedOptions := do
  let values := valuesOf levels
  let given := fun name => (values name).bind List.head?
  let has := fun name => (values name).isSome
  let fromEnvironment := vars.lookup ConfigLocation.overrideName
  guard (pathsAreSound fromEnvironment levels)
  let config := (given "config").or fromEnvironment
  let backend :=
    (given "backend").or (vars.lookup Variables.backendName)
  let headers :=
    ((values "header").getD []).filterMap
      (fun s => (HeaderOption.parse s).toOption)
  return {
    session :=
      { config, backend := backend.getD "", strict := has "strict"
        headers }
    json := has "json", noColor := has "no-color"
    quiet := has "quiet", debug := has "debug" }

/- How the program prints on a terminal or elsewhere. -/
def formatter
    (o : SharedOptions)
    (terminal : Bool) : Formatter where
  json := o.json
  quiet := o.quiet
  noColor := o.noColor || !terminal

/- How the log is written; warnings are shown for debugging. -/
def logOptions
    (o : SharedOptions)
    (usual : LogOptions) : LogOptions :=
  if o.debug then { usual with level := some .warning } else usual

end SharedOptions

end StorageRouting

------------------------------------------------------------
-- Command Lines
------------------------------------------------------------

namespace StorageRouting

/- What a command line asks the program for. -/
inductive CommandLine where
| mistake : CommandLine
| help : CommandLine
| version (names : List String) : CommandLine
| command
    (options : SharedOptions)
    (c : Command) : CommandLine

namespace CommandLine

/- The name of the program. -/
def programName : String :=
  "dyns"

/- The version of the program. -/
def programVersion : String :=
  "0.1.0"

/- Read a command with the options around it. -/
def ofLevels
    (vars : Variables)
    (levels : List (String × Matched)) : CommandLine :=
  match Command.ofLevels? levels, SharedOptions.ofLevels? vars levels with
  | some c, some options => .command options c
  | _, _ => .mistake

/- Read the words behind the name of the program. -/
def read
    (vars : Variables)
    (words : List String) : CommandLine :=
  match Command.spec.read ⟨SharedOptions.specs, true⟩ programName words with
  | .mistake => .mistake
  | .help => .help
  | .version names => .version names
  | .matched levels => ofLevels vars levels

/- The version of a command in a line. -/
def versionText (names : List String) : String :=
  Text.joinWith "-" names ++ " " ++ programVersion

end CommandLine

end StorageRouting

------------------------------------------------------------
-- Runs
------------------------------------------------------------

namespace StorageRouting

/-
  How the program ended, unless it broke off: on a mistake, with
  help, or with the exit code of a command.
-/
inductive ProgramOutcome where
| mistake : ProgramOutcome
| help : ProgramOutcome
| ended (code : ExitCode) : ProgramOutcome
deriving DecidableEq, Repr

namespace ProgramOutcome

/- The exit code of the program. -/
def code : ProgramOutcome → ExitCode
| .mistake => .usageError
| .help => .success
| .ended code => code

/- The number that the program ends with. -/
def number : Option ProgramOutcome → Int
| some outcome => outcome.code.number
| none => 101

end ProgramOutcome

/-
  What the program finds around itself, and how the log is
  written unless the program is debugged.
-/
structure ProgramSetting (σ : Type) where
  platform : Platform σ
  environment : Variables
  terminal : Bool
  log : LogOptions

namespace CommandLine

variable {σ : Type}

/- Warn of the backends that failed to close. -/
def closingScreen
    (f : Formatter)
    (summary : ShutdownSummary) : Screen :=
  summary.failed.flatMap (fun (name, e) =>
    f.warning
      ("Failed to close backend '" ++ name ++ "': " ++ e.message))

/- Run a command on a session of its own. -/
def runCommand
    (setting : ProgramSetting σ)
    (f : Formatter)
    (options : SessionOptions)
    (command : Command) : Job σ ExitCode := do
  let env := setting.environment.location
  match ← Session.establish setting.platform env options with
  | .error e => Job.report f "Failed to initialize backends" e
  | .ok session =>
      let code ← command.run session f
      let summary ← session.close
      Job.print (closingScreen f summary)
      return code

/- The script of a shell for the names of all commands. -/
def completionScript (shell : Shell) : String :=
  shell.script programName (Command.spec.subcommands.map Prod.fst)

/- How the program is used, in one line. -/
def usageText : String :=
  "Usage: " ++ programName ++ " [OPTIONS] <" ++
    Text.joinWith "|" (Command.spec.subcommands.map Prod.fst) ++ ">"

/- The file that a command reads or writes, if any. -/
def fileOf? : Command → Option String
| .put file _ _ _ => some file
| .get key path _ =>
    match Destination.ofArguments key path with
    | .results => none
    | .file path => some path
| _ => none

/- The files that a command line may touch. -/
def files
    (vars : Variables) : CommandLine → List String
| .command options c =>
    options.session.config.getD (ConfigLocation.path vars.location) ::
      (fileOf? c).toList
| _ => []

/- How the log of a command line is written. -/
def logOptions
    (usual : LogOptions) : CommandLine → LogOptions
| .command options _ => options.logOptions usual
| _ => usual

/- Do what a command line asks for. -/
def run
    (setting : ProgramSetting σ) :
    CommandLine → Job σ ProgramOutcome
| .mistake => return .mistake
| .help => return .help
| .version names => do
    Job.print [.line .results (versionText names)]
    return .ended .success
| .command _ (.completions shell) => do
    Job.print [.raw (Bytes.ofString (completionScript shell))]
    return .ended .success
| .command options c => do
    let f := options.formatter setting.terminal
    return .ended (← runCommand setting f options.session c)

end CommandLine

end StorageRouting
