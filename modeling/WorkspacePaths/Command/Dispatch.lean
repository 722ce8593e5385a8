import WorkspacePaths.Command.Answer
import WorkspacePaths.Command.Context
import WorkspacePaths.Command.Request
import WorkspacePaths.Document.Json.Printer

/-!
# `Command.Dispatch` — commands and what is printed of them

A command line is handed to an application, which runs a command and comes to an end in one of four
ways. What it returns is printed, or is the exit code if it is a number.

## Contents
- **Applications.** `Ending`, `App`.
- **Dispatching.** `ExitCode`, `Report`, `Dispatched`, `dispatch`.
- **Commands.** `resolveCommand`, `expandCommand`, and `commands`, the application made of them.
-/

namespace WorkspacePaths.Command

/-! ## Applications -/

/-- How an application comes to an end. -/
inductive Ending where
  | returned (answer : Answer)
  | exited (answer : Answer)
  /-- The user interrupted it. -/
  | interrupted
  | failed (message : Text)

/-- An application runs the words of a command line. -/
abbrev App := List Text → Context → Run Ending

/-! ## Dispatching -/

/-- An exit code; an answer that is true or false is one too. -/
inductive ExitCode where
  | flag (b : Bool)
  | number (n : Int)
deriving DecidableEq

/-- What a command line comes to, for whoever called it. -/
structure Report where
  exit : ExitCode
  stdout : Text := []
  stderr : Text := []
deriving DecidableEq

/-- What dispatching comes to. -/
inductive Dispatched where
  | done (report : Report)
  | interrupted
  | failed (message : Text)
deriving DecidableEq

/-- A text as a line. -/
def line (t : Text) : Text := t ++ ("\n" : Text)

/-- What is reported of an ending: an answer that is a whole number is the exit code, any other one
is shown. One to exit with is an error. -/
def Ending.report : Ending → Dispatched
  | returned .nothing | exited .nothing => .done { exit := .number 0 }
  | returned (.flag b) | exited (.flag b) => .done { exit := .flag b }
  | returned (.number n) | exited (.number n) => .done { exit := .number n }
  | returned answer => .done { exit := .number 0, stdout := line answer.shown }
  | exited answer => .done { exit := .number 1, stderr := line answer.shown }
  | interrupted => .interrupted
  | failed message => .failed message

/-- Runs an application and reports its ending. -/
def dispatch (app : App) (words : List Text) (c : Context) : Run Dispatched :=
  let run := app words c
  { run with result := run.result.report }

/-! ## Commands -/

/-- The path settings as JSON, if all of them have a UTF-8 form. -/
def printSettings (config : Config) : Except Failure Text :=
  match (config.pathSettings.flatMap Prod.snd).findSome? Text.encodingFault? with
  | some fault => .error (.encoding fault)
  | none => .ok (Json.printLists config.pathSettings)

/-- The path settings of the configuration in force, or of the workspace if there is none. -/
def resolveCommand (c : Context) (root : Option Text) : Attempt Text := do
  match c.host.rootOf root with
  | .error fault => Logged.fail (.ofHome fault)
  | .ok root =>
    let config ←
      match c.active with
      | some config => pure config
      | none => loadConfig c.host c.host.environment (some root)
    Logged.lift (printSettings config)

/-- The paths that entries stand for, each on its own line, without repeats. -/
def expandCommand (c : Context) (root : Option Text) (entries : List Text) : Attempt Text := do
  match c.host.rootOf root with
  | .error fault => Logged.fail (.ofHome fault)
  | .ok root =>
    let paths ← (resolveAll c.host.environment .posix ⟨.located, root⟩ entries).attempt
    return Text.joinWith "\n" paths

/-- A command as a run, which leaves the context as it is. -/
def Context.runCommand (c : Context) (command : Attempt Text) : Run Ending :=
  match command.outcome with
  | .ok t => ⟨.returned (.text t), command.log, c⟩
  | .error failure => ⟨.failed failure.message, command.log, c⟩

/-- The application made of the commands. A command whose workspace is not named takes the one that
the variable names. -/
def commands : App := fun words c =>
  match Request.ofWords words with
  | .usage | .info => ⟨.returned .nothing, [], c⟩
  | .unknown => ⟨.exited (.number 2), [], c⟩
  | .resolve root => c.runCommand (resolveCommand c (root <|> c.workspace))
  | .expand root entries => c.runCommand (expandCommand c (root <|> c.workspace) entries)

end WorkspacePaths.Command
