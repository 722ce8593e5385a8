import WorkspacePaths.Config.Loader

/-!
# `Command.Context` — what a command finds and leaves

A command runs in a process, and finds a configuration in force or none. Both can be changed for the
time that something runs, and are put back afterwards.

## Contents
- **Contexts.** `Context`, `Context.current`.
- **Runs.** `Run`: a result, what was logged, and the context afterwards.
- **For a time.** `withWorkspace` sets the variable that names the workspace, `withConfig` puts a
  configuration in force.
-/

namespace WorkspacePaths.Command

/-- What a command finds and leaves. -/
structure Context where
  host : Host := {}
  /-- The configuration in force. -/
  active : Option Config := none

/-- The configuration in force. -/
def Context.current (c : Context) : Except Failure Config :=
  match c.active with
  | some config => .ok config
  | none => .error (.config .notLoaded)

/-- What a run in a context comes to: its result, what it logged, and the context afterwards. -/
structure Run (α : Type) where
  result : α
  log : Log
  context : Context

/-- The variable that names the workspace. -/
def workspaceVariable : Text := "EMMYRC_WORKSPACE_ROOT"

/-- The workspace that the variable names. -/
def Context.workspace (c : Context) : Option Text := c.host.bindings.get? workspaceVariable

/-- Runs `body` with the variable naming `root`, and puts the variable back. The system may refuse
the name of the root; then nothing runs. -/
def withWorkspace {α : Type} (root : Text) (refused : SystemFault → α) (body : Context → Run α)
    (c : Context) : Run α :=
  match c.host.setVariable workspaceVariable root with
  | .error fault => ⟨refused fault, [], c⟩
  | .ok host =>
    let run := body { c with host }
    let restored := run.context.host.restoreVariable workspaceVariable c.workspace
    { run with context := { run.context with host := restored } }

/-- Runs `body` with a configuration in force, and puts back what was in force before. -/
def withConfig {α : Type} (config : Config) (body : Context → Run α) (c : Context) : Run α :=
  let run := body { c with active := some config }
  { run with context := { run.context with active := c.active } }

end WorkspacePaths.Command
