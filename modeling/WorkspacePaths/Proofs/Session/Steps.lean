import WorkspacePaths.Proofs.Command.Restoring
import WorkspacePaths.Session

/-!
# `Proofs.Session.Steps` — what a step leaves alone

A session holds three things that outlast a step: what is in force, with what stood there before each
configuration that is entered; the files; the loaders that are kept. Each of them is worked on by two
kinds of step only. Every other step leaves it as it is, whether it fails or not, and so do the
applications that a session runs, if they are of the kind that does.

## Contents
- **Kinds.** `Step.nests`, `Step.writes` and `Step.handlesLoader`, the steps that work on one of the
  three; `Step.Uses`, for the applications that a step runs.
- **Steps that may fail.** What each of them leads to: `step_setVariable`, `step_keepLoader`, `step_load`
  and their like.
- **Frames.** `active_step`, `disk_step`, `loaders_step`: what the other steps leave alone.
- **Runs.** `Session.start`; `run_cons`.
-/

namespace WorkspacePaths

open Command

/-! ## Kinds -/

namespace Step

/-- The step puts a configuration in force or takes it back. -/
def nests : Step → Bool
  | enter _ | leave => true
  | _ => false

/-- The step writes a file or removes one. -/
def writes : Step → Bool
  | write _ _ | remove _ => true
  | _ => false

/-- The step keeps a loader or uses one. -/
def handlesLoader : Step → Bool
  | keepLoader _ _ | load _ => true
  | _ => false

/-- The application that the step runs, if it runs one, is of a kind. -/
def Uses (kind : App → Prop) : Step → Prop
  | command app _ => kind app
  | _ => True

end Step

namespace Session

variable {s : Session} {step : Step}

/-! ## Steps that may fail -/

/-- A variable that is set, or cannot be, makes no difference to the rest of the session. -/
theorem step_setVariable (s : Session) (name value : Text) :
    ∃ host, host.disk = s.context.host.disk
      ∧ (s.step (.setVariable name value)).2 = s.withHost host := by
  simp only [Session.step]
  cases hset : s.context.host.setVariable name value with
  | error fault => exact ⟨s.context.host, rfl, rfl⟩
  | ok host => exact ⟨host, Host.disk_setVariable hset, rfl⟩

theorem step_unsetVariable (s : Session) (name : Text) :
    ∃ host, host.disk = s.context.host.disk
      ∧ (s.step (.unsetVariable name)).2 = s.withHost host := by
  simp only [Session.step, Host.unsetVariable]
  cases name.systemFault? with
  | some fault => exact ⟨s.context.host, rfl, rfl⟩
  | none =>
    let host : Host :=
      { s.context.host with bindings := s.context.host.bindings.erase (Utf8.canonical name) }
    exact ⟨host, rfl, rfl⟩

/-- Processing only answers. -/
theorem step_process (s : Session) (env : Option Environment) (root : Root) :
    (s.step (.process env root)).2 = s := by
  simp only [Session.step]
  cases s.context.current with
  | error failure => rfl
  | ok config => rfl

theorem step_keepLoader (s : Session) (name : Text) (root : Option Text) :
    (s.step (.keepLoader name root)).2 = s
      ∨ ∃ loader, Loader.ofRoot s.context.host root = .ok loader
          ∧ (s.step (.keepLoader name root)).2 = s.keep name loader := by
  simp only [Session.step]
  cases hloader : Loader.ofRoot s.context.host root with
  | error failure => exact Or.inl rfl
  | ok loader => exact Or.inr ⟨loader, rfl, rfl⟩

theorem step_load (s : Session) (name : Text) :
    (s.step (.load name)).2 = s
      ∨ ∃ loader, s.loader? name = some loader
          ∧ (s.step (.load name)).2 = s.keep name (loader.document s.context.host).2 := by
  simp only [Session.step]
  cases hloader : s.loader? name with
  | none => exact Or.inl rfl
  | some loader => exact Or.inr ⟨loader, rfl, rfl⟩

/-- A step that works on loaders works on nothing else. -/
theorem step_handlesLoader (s : Session) (step : Step) (h : step.handlesLoader = true) :
    ∃ loaders, (s.step step).2 = { s with loaders } := by
  cases step with
  | keepLoader name root =>
    rcases s.step_keepLoader name root with hsame | ⟨loader, _, hkept⟩
    · exact ⟨s.loaders, hsame⟩
    · exact ⟨_, hkept⟩
  | load name =>
    rcases s.step_load name with hsame | ⟨loader, _, hkept⟩
    · exact ⟨s.loaders, hsame⟩
    · exact ⟨_, hkept⟩
  | _ => exact absurd h (by simp [Step.handlesLoader])

/-! ## Frames -/

/-- **What is in force** stays so in every step that does not put a configuration in force or take it
back, and so does what is remembered. -/
theorem active_step (hnests : step.nests = false) (happ : step.Uses KeepsConfig) :
    (s.step step).2.context.active = s.context.active ∧ (s.step step).2.saved = s.saved := by
  cases step with
  | enter document => exact absurd hnests (by simp [Step.nests])
  | leave => exact absurd hnests (by simp [Step.nests])
  | setVariable name value =>
    obtain ⟨host, _, hstep⟩ := s.step_setVariable name value
    rw [hstep]
    exact ⟨rfl, rfl⟩
  | unsetVariable name =>
    obtain ⟨host, _, hstep⟩ := s.step_unsetVariable name
    rw [hstep]
    exact ⟨rfl, rfl⟩
  | process env root =>
    rw [step_process]
    exact ⟨rfl, rfl⟩
  | keepLoader name root =>
    obtain ⟨loaders, hstep⟩ := s.step_handlesLoader (.keepLoader name root) rfl
    rw [hstep]
    exact ⟨rfl, rfl⟩
  | load name =>
    obtain ⟨loaders, hstep⟩ := s.step_handlesLoader (.load name) rfl
    rw [hstep]
    exact ⟨rfl, rfl⟩
  | workspace path => exact ⟨active_withWorkspace _ (fun _ => rfl), rfl⟩
  | command app words => exact ⟨active_run happ words s.context, rfl⟩
  | _ => exact ⟨rfl, rfl⟩

/-- **The files** stay as they are in every step that does not write one or remove one. -/
theorem disk_step (hwrites : step.writes = false) (happ : step.Uses KeepsFiles) :
    (s.step step).2.context.host.disk = s.context.host.disk := by
  cases step with
  | write path content => exact absurd hwrites (by simp [Step.writes])
  | remove path => exact absurd hwrites (by simp [Step.writes])
  | setVariable name value =>
    obtain ⟨host, hhost, hstep⟩ := s.step_setVariable name value
    rw [hstep]
    exact hhost
  | unsetVariable name =>
    obtain ⟨host, hhost, hstep⟩ := s.step_unsetVariable name
    rw [hstep]
    exact hhost
  | enter document =>
    simp only [Session.step]
    cases Config.ofMembers document with
    | error fault => rfl
    | ok config => rfl
  | leave =>
    show s.leave.context.host.disk = s.context.host.disk
    unfold Session.leave
    cases s.saved with
    | nil => rfl
    | cons before rest => rfl
  | process env root => rw [step_process]
  | keepLoader name root =>
    obtain ⟨loaders, hstep⟩ := s.step_handlesLoader (.keepLoader name root) rfl
    rw [hstep]
  | load name =>
    obtain ⟨loaders, hstep⟩ := s.step_handlesLoader (.load name) rfl
    rw [hstep]
  | workspace path => exact disk_withWorkspace _ (fun _ => rfl)
  | command app words => exact disk_run happ words s.context
  | _ => rfl

/-- **The loaders** that are kept stay so in every step that does not keep one or use one. -/
theorem loaders_step (hloader : step.handlesLoader = false) :
    (s.step step).2.loaders = s.loaders := by
  cases step with
  | keepLoader name root => exact absurd hloader (by simp [Step.handlesLoader])
  | load name => exact absurd hloader (by simp [Step.handlesLoader])
  -- the other steps that change anything change the host or what is in force
  | setVariable name value =>
    obtain ⟨host, _, hstep⟩ := s.step_setVariable name value
    rw [hstep]
    rfl
  | unsetVariable name =>
    obtain ⟨host, _, hstep⟩ := s.step_unsetVariable name
    rw [hstep]
    rfl
  | enter document =>
    simp only [Session.step]
    cases Config.ofMembers document with
    | error fault => rfl
    | ok config => rfl
  | leave =>
    show s.leave.loaders = s.loaders
    unfold Session.leave
    cases s.saved with
    | nil => rfl
    | cons before rest => rfl
  | process env root => rw [step_process]
  | _ => rfl

/-! ## Runs -/

/-- A session in which nothing has happened yet. -/
def start (p : Host) : Session := { context := { host := p } }

theorem run_cons (s : Session) (step : Step) (rest : List Step) :
    (s.run (step :: rest)).2 = ((s.step step).2.run rest).2 := rfl

end Session

end WorkspacePaths
