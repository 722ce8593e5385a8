import WorkspacePaths.Command.CommandLine

/-!
# `Session` — many operations in one process

A session is a process in which one operation follows another: the process changes, configurations
are put in force and taken back, loaders are kept and used again, commands run. The configuration in
force is a single place; entering a configuration remembers what stood there, and leaving puts that
back.

## Contents
- **Sessions.** `Session`, `Session.loader?`.
- **Steps.** `Step`, `Result`, and `Session.step`, which takes one step.
- **Histories.** `Session.run` takes many.
-/

namespace WorkspacePaths

open Command

/-- A process with what is kept between operations. -/
structure Session where
  context : Context := {}
  /-- What was in force when each configuration that is still entered was put in its place, the
  innermost first. -/
  saved : List (Option Config) := []
  /-- The loaders that are kept, by name. -/
  loaders : List (Text × Loader) := []

/-- One operation of a session. -/
inductive Step where
  | write (path : Text) (content : List UInt8)
  | remove (path : Text)
  | changeDirectory (path : Text)
  | setVariable (name value : Text)
  | unsetVariable (name : Text)
  /-- Puts the configuration that a document holds in force. -/
  | enter (document : Members)
  /-- Takes the configuration that was entered last out of force. -/
  | leave
  | current
  /-- Keeps a loader for a workspace under a name. -/
  | keepLoader (name : Text) (root : Option Text)
  | load (name : Text)
  /-- Processes the configuration in force, in the given environment or that of the host. -/
  | process (env : Option Environment) (root : Root)
  | resolve (root : Option Text)
  | expand (root : Option Text) (entries : List Text)
  /-- Sets the variable that names the workspace for a moment. -/
  | workspace (path : Text)
  | command (app : App) (words : Option (List Text))

/-- What a step yields. -/
inductive Result where
  | done
  | config (c : Config)
  | text (t : Text)
  | loader (format : Format) (path : Text)
  /-- The value of a variable at one time and at a later one. -/
  | values (inside after : Option Text)
  | report (r : Report) (workspace : Option Text)

namespace Session

/-- What a step comes to, and the session afterwards. -/
abbrev Stepped := Attempt Result × Session

/-- The loader kept under a name. -/
def loader? (s : Session) (name : Text) : Option Loader := s.loaders.lookup name

/-- The session with a loader kept under a name. -/
def keep (s : Session) (name : Text) (loader : Loader) : Session :=
  { s with loaders := (name, loader) :: s.loaders.filter (fun l => l.1 ≠ name) }

/-- The session with another host. -/
def withHost (s : Session) (host : Host) : Session :=
  { s with context := { s.context with host } }

/-- The step yields what an outcome gives, and changes nothing. -/
def answer (s : Session) (r : Attempt Result) : Stepped := (r, s)

/-- The step is done, and leads to a session. -/
def done (s : Session) : Stepped := (pure .done, s)

/-- The step fails, and changes nothing. -/
def failed (s : Session) (failure : Failure) : Stepped := (Logged.fail failure, s)

/-- Puts a configuration in force. -/
def enter (s : Session) (config : Config) : Session :=
  { s with
    context := { s.context with active := some config }
    saved := s.context.active :: s.saved }

/-- Puts back what was in force before the last configuration was entered. -/
def leave (s : Session) : Session :=
  match s.saved with
  | [] => s
  | before :: rest => { s with context := { s.context with active := before }, saved := rest }

/-- The value of the workspace variable while it names `path`, and afterwards. -/
def tryWorkspace (s : Session) (path : Text) : Run (Except Failure (Option Text)) :=
  withWorkspace (spelled path) (fun fault => .error (Failure.ofSystem fault))
    (fun c => ⟨.ok c.workspace, [], c⟩) s.context

/-- Takes one step. -/
def step (s : Session) : Step → Stepped
  | .write path content => done (s.withHost (s.context.host.write path content))
  | .remove path => done (s.withHost (s.context.host.remove path))
  | .changeDirectory path => done (s.withHost { s.context.host with cwd := path })
  | .setVariable name value =>
    match s.context.host.setVariable name value with
    | .ok host => done (s.withHost host)
    | .error fault => s.failed (Failure.ofSystem fault)
  | .unsetVariable name =>
    match s.context.host.unsetVariable name with
    | .ok host => done (s.withHost host)
    | .error fault => s.failed (.encoding fault)
  | .enter document =>
    match Config.ofMembers document with
    | .ok config => done (s.enter config)
    | .error fault => s.failed (Failure.ofShape fault)
  | .leave => done s.leave
  | .current => s.answer (Logged.lift (s.context.current.map Result.config))
  | .keepLoader name root =>
    match Loader.ofRoot s.context.host root with
    | .ok loader => (pure (.loader loader.format loader.path), s.keep name loader)
    | .error failure => s.failed failure
  | .load name =>
    match s.loader? name with
    | none => s.failed (.config .notLoaded)
    | some loader =>
      let (loaded, loader) := loader.load s.context.host
      (loaded.bind (fun c => pure (.config c)), s.keep name loader)
  | .process env root =>
    match s.context.current with
    | .error failure => s.failed failure
    | .ok config =>
      let processed := config.process (env.getD s.context.host.environment) root
      s.answer (processed.attempt.bind (fun c => pure (.config c)))
  | .resolve root => s.answer ((resolveCommand s.context root).bind (fun t => pure (.text t)))
  | .expand root entries =>
    s.answer ((expandCommand s.context root entries).bind (fun t => pure (.text t)))
  | .workspace path =>
    let run := s.tryWorkspace path
    (⟨run.result.map (fun inside => .values inside run.context.workspace), run.log⟩,
      { s with context := run.context })
  | .command app words =>
    let run := Command.run app words s.context
    (⟨run.result.map (fun report => .report report run.context.workspace), run.log⟩,
      { s with context := run.context })

/-- Takes steps one after another. -/
def run (s : Session) : List Step → List (Attempt Result) × Session
  | [] => ([], s)
  | step :: rest =>
    let (result, s') := s.step step
    let (results, last) := s'.run rest
    (result :: results, last)

end Session

end WorkspacePaths
