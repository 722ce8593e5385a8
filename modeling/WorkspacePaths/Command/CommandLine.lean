import WorkspacePaths.Command.Dispatch
import WorkspacePaths.Command.Override

/-!
# `Command.CommandLine` — the whole of a command line

Before a command is dispatched, the workspace is settled: the one named on the command line, else
the one that the variable names, else the current directory. A command that works on the
configuration has it loaded and put in force first. Whatever happens is turned into an exit code and
what is printed, except that a workspace option without its value ends everything at once.

## Contents
- `configured`: the commands that work on the configuration.
- `Dispatched.close`: what a dispatch comes to in the end.
- `run`: the whole of a command line; `configPaths`, the files that it may load.
-/

namespace WorkspacePaths.Command

/-- The commands that work on the configuration. -/
def configured : List Text := ["resolve"]

/-- The report of a failure that nobody expects. -/
def unexpected (message : Text) : Report :=
  { exit := .number 1, stderr := line (("Unexpected error: " : Text) ++ message) }

/-- The report of an interruption. -/
def interruption : Report :=
  { exit := .number 130, stderr := "\nOperation cancelled by user.\n" }

/-- The report of a configuration that cannot be had. -/
def configurationError (fault : ConfigFault) : Report :=
  { exit := .number 1, stderr := line (("Configuration error: " : Text) ++ fault.message) }

/-- What a dispatch comes to in the end. -/
def Dispatched.close : Dispatched → Report
  | done report => report
  | interrupted => interruption
  | failed message => unexpected message

/-- The report of a failure before a command is dispatched. A refusal of the system is not expected,
though it is met while a configuration is looked for. -/
def failureReport : Failure → Report
  | .config fault =>
    if fault.isRefusal then unexpected fault.message else configurationError fault
  | failure => unexpected failure.message

/-- Dispatches in the workspace `root`; a root that the system refuses is a failure. -/
def dispatchIn (root : Text) (body : Context → Run Dispatched) : Context → Run Dispatched :=
  withWorkspace root (fun fault => .failed fault.message) body

/-- Loads the configuration of `root` and dispatches a command that works on it. -/
def dispatchConfigured (root : Text) (app : App) (words : List Text) (c : Context) : Run Report :=
  let loaded := loadConfig c.host c.host.environment (some root)
  match loaded.outcome with
  | .error failure => ⟨failureReport failure, loaded.log, c⟩
  | .ok config =>
    let run := dispatchIn root (withConfig config (dispatch app words)) c
    ⟨run.result.close, loaded.log ++ run.log, run.context⟩

/-- Settles the workspace and dispatches a command. -/
def runCommandLine (app : App) (named : Option Text) (words : List Text) (c : Context) :
    Run Report :=
  match c.host.rootOf (named <|> c.workspace) with
  | .error fault => ⟨unexpected (Failure.ofHome fault).message, [], c⟩
  | .ok root =>
    if words.head?.any (fun command => configured.contains command) then
      dispatchConfigured root app words c
    else
      let run := dispatchIn root (dispatch app words) c
      { run with result := run.result.close }

/-- Shows the usage, which is an error. -/
def showUsage (app : App) (c : Context) : Run Report :=
  let run := dispatch app [] c
  match run.result with
  | .done report => { run with result := { report with exit := .number 2 } }
  | ending => { run with result := ending.close }

/-- Runs a command line, the one that the process was started with if none is given. -/
def run (app : App) (words : Option (List Text)) (c : Context) : Run (Except Failure Report) :=
  match extractOverride (words.getD c.host.arguments) with
  | .error failure => ⟨.error failure, [], c⟩
  | .ok (named, words) =>
    let run := if words = [] then showUsage app c else runCommandLine app named words c
    { run with result := .ok run.result }

/-- The configuration files that the command line of a process may load. -/
def configPaths (h : Host) : List Text :=
  match extractOverride h.arguments with
  | .error _ => []
  | .ok (named, _) =>
    match h.workspaceRoot (named <|> h.bindings.get? workspaceVariable) with
    | none => []
    | some root => [Loader.pathIn root .json, Loader.pathIn root .toml]

end WorkspacePaths.Command
