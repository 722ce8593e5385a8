import WorkspacePaths.Command.CommandLine
import WorkspacePaths.Proofs.Host.Files

/-!
# `Proofs.Command.Restoring` — what a command line leaves behind

A command line changes two things for the time that a command runs: the variable that names the
workspace, and the configuration in force. Both are put back behind the command, whatever it did to
them and however it ended, and neither is touched on the ways out that lead past it. The care is taken
only of what the command line itself changes: usage is shown in no workspace, so what an application does
to the variable then is not undone, and one that puts another configuration in force is stopped only where
the command line has put one in force, too. An application that only tells how it is used does nothing to
the variable, and the commands leave what is in force as it is.

## Contents
- **For a time.** `get?_restoreVariable`; `workspace_withWorkspace`, `active_withWorkspace`,
  `active_withConfig`; `disk_withWorkspace` for the files.
- **Stages.** `context_runCommandLine`, the ways of a command line with a command, and
  `workspace_runCommandLine`; `context_showUsage` without one.
- **Applications.** `KeepsConfig`, `KeepsFiles` and `ShowsUsage`; `keepsConfig_commands` and
  `keepsFiles_commands`, as the commands leave everything as it is.
- `context_run`: the ways of any command line; `run_cases`, with `active_run` and `disk_run`, for what holds
  on all of them.
- `run_leaves_context`: the whole of a command line; `run_leaves_context_of_unruly` for an application
  that unsets the variable and is interrupted, `run_leaves_changes_of_app` for what is not undone.
-/

namespace WorkspacePaths.Command

/-! ## For a time -/

theorem get?_restoreVariable (p : Host) (name : Text) (before : Option Text) :
    (p.restoreVariable name before).bindings.get? name = before := by
  cases before with
  | none =>
    show (p.bindings.erase name).get? name = none
    rw [Bindings.get?_erase, if_pos rfl]
  | some value =>
    show (p.bindings.insert name value).get? name = some value
    rw [Bindings.get?_insert, if_pos rfl]

variable {α : Type} {root : Text} {c : Context}

/-- Whatever runs while the variable names a root, the variable is as it was behind it. -/
theorem workspace_withWorkspace (refused : SystemFault → α) (body : Context → Run α) :
    (withWorkspace root refused body c).context.workspace = c.workspace := by
  unfold withWorkspace
  cases c.host.setVariable workspaceVariable root with
  | error fault => rfl
  | ok host => exact get?_restoreVariable _ workspaceVariable c.workspace

/-- Naming a root does nothing to the configuration in force. -/
theorem active_withWorkspace (refused : SystemFault → α) {body : Context → Run α}
    (h : ∀ c, (body c).context.active = c.active) :
    (withWorkspace root refused body c).context.active = c.active := by
  unfold withWorkspace
  cases c.host.setVariable workspaceVariable root with
  | error fault => rfl
  | ok host => exact h { c with host }

/-- Whatever runs with a configuration in force, the one from before is in force behind it. -/
theorem active_withConfig (config : Config) (body : Context → Run α) (c : Context) :
    (withConfig config body c).context.active = c.active := rfl

/-- Naming a root does nothing to the files. -/
theorem disk_withWorkspace (refused : SystemFault → α) {body : Context → Run α}
    (h : ∀ c, (body c).context.host.disk = c.host.disk) :
    (withWorkspace root refused body c).context.host.disk = c.host.disk := by
  unfold withWorkspace
  cases hset : c.host.setVariable workspaceVariable root with
  | error fault => rfl
  | ok host =>
    calc ((body { c with host }).context.host.restoreVariable workspaceVariable c.workspace).disk
        = (body { c with host }).context.host.disk := Host.disk_restoreVariable _ _ _
      _ = host.disk := h { c with host }
      _ = c.host.disk := Host.disk_setVariable hset

/-! ## Stages -/

variable {app : App} {words : List Text} {named : Option Text}

/-- A command that works on the configuration is not reached, or dispatched with one in force. -/
theorem context_dispatchConfigured (root : Text) (app : App) (words : List Text) (c : Context) :
    (dispatchConfigured root app words c).context = c
      ∨ ∃ config, (dispatchConfigured root app words c).context
          = (dispatchIn root (withConfig config (dispatch app words)) c).context := by
  unfold dispatchConfigured
  cases hload : (loadConfig c.host c.host.environment (some root)).outcome with
  | error failure => simp only [hload, true_or]
  | ok config =>
    simp only [hload]
    exact Or.inr ⟨config, rfl⟩

/-- The first of the words is a command that works on the configuration. -/
def IsConfigured (words : List Text) : Prop := ∃ command ∈ words.head?, command ∈ configured

/-- **The ways of a command line with a command**: no command is reached, or one is dispatched in a
workspace, with a configuration in force if the command works on it, and without otherwise. -/
theorem context_runCommandLine (app : App) (named : Option Text) (words : List Text) (c : Context) :
    (runCommandLine app named words c).context = c
      ∨ (¬ IsConfigured words ∧ ∃ root, (runCommandLine app named words c).context
          = (dispatchIn root (dispatch app words) c).context)
      ∨ ∃ root config, (runCommandLine app named words c).context
          = (dispatchIn root (withConfig config (dispatch app words)) c).context := by
  -- without a root nothing is dispatched; with one, the first word decides how
  unfold runCommandLine
  cases c.host.rootOf (named <|> c.workspace) with
  | error fault => exact Or.inl rfl
  | ok root =>
    by_cases hconfigured : words.head?.any (fun command => configured.contains command) = true
    · simp only [if_pos hconfigured]
      rcases context_dispatchConfigured root app words c with hsame | ⟨config, hdispatch⟩
      · exact Or.inl hsame
      · exact Or.inr (Or.inr ⟨root, config, hdispatch⟩)
    · simp only [if_neg hconfigured]
      refine Or.inr (Or.inl ⟨?_, root, rfl⟩)
      rintro ⟨command, hcommand, hin⟩
      exact hconfigured ((Option.any_eq_true _ _).mpr ⟨command, hcommand, List.contains_iff_mem.mpr hin⟩)

/-- A command leaves the variable as it found it, whatever the application does to it. -/
theorem workspace_runCommandLine :
    (runCommandLine app named words c).context.workspace = c.workspace := by
  rcases context_runCommandLine app named words c
    with hsame | ⟨_, root, hdispatch⟩ | ⟨root, config, hdispatch⟩
  · rw [hsame]
  · rw [hdispatch]
    exact workspace_withWorkspace _ (dispatch app words)
  · rw [hdispatch]
    exact workspace_withWorkspace _ (withConfig config (dispatch app words))

/-- Showing usage leaves what the application leaves. -/
theorem context_showUsage : (showUsage app c).context = (app [] c).context := by
  have hdispatch : (dispatch app [] c).context = (app [] c).context := rfl
  unfold showUsage
  rw [← hdispatch]
  cases hresult : (dispatch app [] c).result with
  | done report => simp only [hresult]
  | interrupted => simp only [hresult]
  | failed message => simp only [hresult]

/-! ## Applications -/

/-- An application leaves the configuration in force as it is. -/
def KeepsConfig (app : App) : Prop := ∀ words c, (app words c).context.active = c.active

/-- An application leaves the files as they are. -/
def KeepsFiles (app : App) : Prop := ∀ words c, (app words c).context.host.disk = c.host.disk

/-- Given no words, an application only shows how it is used, and leaves the variable that names the
workspace as it is. -/
def ShowsUsage (app : App) : Prop := ∀ c, (app [] c).context.workspace = c.workspace

theorem active_runCommandLine (h : KeepsConfig app ∨ IsConfigured words) :
    (runCommandLine app named words c).context.active = c.active := by
  rcases context_runCommandLine app named words c
    with hsame | ⟨hnot, root, hdispatch⟩ | ⟨root, config, hdispatch⟩
  · rw [hsame]
  · rw [hdispatch]
    exact active_withWorkspace _ (h.resolve_right hnot words)
  · rw [hdispatch]
    exact active_withWorkspace _ (active_withConfig config (dispatch app words))

theorem disk_runCommandLine (hfiles : KeepsFiles app) :
    (runCommandLine app named words c).context.host.disk = c.host.disk := by
  rcases context_runCommandLine app named words c
    with hsame | ⟨_, root, hdispatch⟩ | ⟨root, config, hdispatch⟩
  · rw [hsame]
  · rw [hdispatch]
    exact disk_withWorkspace _ (hfiles words)
  · rw [hdispatch]
    exact disk_withWorkspace _ (fun c => hfiles words { c with active := some config })

/-- The commands leave everything as it is. -/
theorem context_commands (words : List Text) (c : Context) : (commands words c).context = c := by
  have hcommand : ∀ command, (c.runCommand command).context = c := by
    intro command
    unfold Context.runCommand
    cases command.outcome with
    | ok t => rfl
    | error failure => rfl
  unfold commands
  cases Request.ofWords words with
  | usage => rfl
  | info => rfl
  | unknown => rfl
  | resolve root => exact hcommand _
  | expand root entries => exact hcommand _

/-- The commands are an application of which a command line takes care entirely. -/
theorem keepsConfig_commands : KeepsConfig commands ∧ ShowsUsage commands :=
  ⟨fun words c => congrArg Context.active (context_commands words c),
    fun c => congrArg Context.workspace (context_commands [] c)⟩

theorem keepsFiles_commands : KeepsFiles commands :=
  fun words c => congrArg (fun after => after.host.disk) (context_commands words c)

/-- **The ways of a command line**: it names its workspace wrongly, it has no words left and shows
usage, or it has a command. -/
theorem context_run (app : App) (words : Option (List Text)) (c : Context) :
    (∃ failure, extractOverride (words.getD c.host.arguments) = .error failure
        ∧ (run app words c).context = c)
      ∨ (∃ named, extractOverride (words.getD c.host.arguments) = .ok (named, [])
          ∧ (run app words c).context = (app [] c).context)
      ∨ ∃ named left, extractOverride (words.getD c.host.arguments) = .ok (named, left) ∧ left ≠ []
          ∧ (run app words c).context = (runCommandLine app named left c).context := by
  unfold run
  cases hwords : extractOverride (words.getD c.host.arguments) with
  | error failure => exact Or.inl ⟨failure, rfl, rfl⟩
  | ok extracted =>
    obtain ⟨named, left⟩ := extracted
    by_cases hleft : left = []
    · subst hleft
      exact Or.inr (Or.inl ⟨named, rfl, context_showUsage⟩)
    · simp only [if_neg hleft]
      exact Or.inr (Or.inr ⟨named, left, rfl, hleft, rfl⟩)

/-- What holds at first, behind usage and behind any command, holds behind a command line. -/
theorem run_cases {motive : Context → Prop} (words : Option (List Text)) (hfirst : motive c)
    (husage : motive (app [] c).context)
    (hcommand : ∀ named left, motive (runCommandLine app named left c).context) :
    motive (run app words c).context := by
  rcases context_run app words c with ⟨_, _, hsame⟩ | ⟨_, _, hshown⟩ | ⟨named, left, _, _, hway⟩
  · rw [hsame]
    exact hfirst
  · rw [hshown]
    exact husage
  · rw [hway]
    exact hcommand named left

/-- A command line leaves the configuration in force as it found it. -/
theorem active_run (hconfig : KeepsConfig app) (words : Option (List Text)) (c : Context) :
    (run app words c).context.active = c.active :=
  run_cases (motive := fun after => after.active = c.active) words rfl (hconfig [] c)
    fun _ _ => active_runCommandLine (Or.inl hconfig)

/-- A command line leaves the files as it found them. -/
theorem disk_run (hfiles : KeepsFiles app) (words : Option (List Text)) (c : Context) :
    (run app words c).context.host.disk = c.host.disk :=
  run_cases (motive := fun after => after.host.disk = c.host.disk) words rfl (hfiles [] c)
    fun _ _ => disk_runCommandLine hfiles

/-- **A command line leaves the variable and the configuration as it found them**, on every way out and
whatever the application comes to. Where no words are left, usage is shown outside of every workspace, and
the context is as the application leaves it. In all other cases the variable is as it was, whatever the
application did to it; in that case, too, if the application leaves it alone when it only shows usage. The
configuration in force is as it was if the application leaves it alone, and if the command works on the
configuration, even if the application does not. -/
theorem run_leaves_context (app : App) (words : Option (List Text)) (c : Context) :
    let after := (run app words c).context
    let left := extractOverride (words.getD c.host.arguments)
    ((ShowsUsage app ∨ ∀ named, left ≠ .ok (named, [])) → after.workspace = c.workspace)
      ∧ (∀ named, left = .ok (named, []) → after = (app [] c).context)
      ∧ ((KeepsConfig app ∨ ∃ named rest, left = .ok (named, rest) ∧ IsConfigured rest) →
        after.current = c.current) := by
  intro after left
  rcases context_run app words c
    with ⟨failure, hwords, hsame⟩ | ⟨named, husage, hshown⟩ | ⟨named, rest, hwords, hne, hcommand⟩
  · -- nothing has been changed yet
    have hafter : after = c := hsame
    have hleft : left = .error failure := hwords
    rw [hafter, hleft]
    exact ⟨fun _ => rfl, fun _ h => absurd h (by simp), fun _ => rfl⟩
  · have hafter : after = (app [] c).context := hshown
    have hleft : left = .ok (named, []) := husage
    rw [hafter, hleft]
    refine ⟨?_, fun _ _ => rfl, ?_⟩
    · rintro (hshows | hother)
      · exact hshows c
      · exact absurd rfl (hother named)
    · rintro (hconfig | ⟨_, rest, hrest, command, hcommand, _⟩)
      · unfold Context.current
        rw [hconfig [] c]
      · obtain ⟨_, rfl⟩ := Prod.mk.inj (Except.ok.inj hrest)
        exact absurd hcommand (by simp)
  · have hafter : after = (runCommandLine app named rest c).context := hcommand
    have hleft : left = .ok (named, rest) := hwords
    rw [hafter, hleft]
    refine ⟨fun _ => workspace_runCommandLine, ?_, ?_⟩
    · intro other h
      exact absurd (Prod.mk.inj (Except.ok.inj h)).2 hne
    · intro h
      have hkeeps : KeepsConfig app ∨ IsConfigured rest := by
        rcases h with hconfig | ⟨_, _, hrest, hconfigured⟩
        · exact Or.inl hconfig
        · obtain ⟨_, rfl⟩ := Prod.mk.inj (Except.ok.inj hrest)
          exact Or.inr hconfigured
      unfold Context.current
      rw [active_runCommandLine hkeeps]

/-- An application that unsets the variable when it runs a command, and is interrupted then. -/
def unruly : App := fun words c =>
  if words = [] then ⟨.returned .nothing, [], c⟩
  else ⟨.interrupted, [],
    { c with host := c.host.restoreVariable workspaceVariable none }⟩

/-- Behind an interrupted command that unset it, the variable is empty again as it was before. -/
theorem run_leaves_context_of_unruly :
    KeepsConfig unruly ∧ ShowsUsage unruly
      ∧ (unruly ["expand"] { host := { bindings := [(workspaceVariable, [])] } }).context.workspace
          = none
      ∧ (run unruly (some ["expand"])
            { host := { bindings := [(workspaceVariable, [])] } }).context.workspace = some []
      ∧ (run unruly (some ["expand"])
            { host := { bindings := [(workspaceVariable, [])] } }).context.current
          = Context.current { host := { bindings := [(workspaceVariable, [])] } } := by
  have hconfig : KeepsConfig unruly := by
    intro words c
    unfold unruly
    split
    · rfl
    · rfl
  have husage : ShowsUsage unruly := fun c => rfl
  obtain ⟨hworkspace, _, hcurrent⟩ := run_leaves_context unruly (some ["expand"])
    { host := { bindings := [(workspaceVariable, [])] } }
  exact ⟨hconfig, husage, rfl, hworkspace (Or.inl husage), hcurrent (Or.inl hconfig)⟩

/-- An application that unsets the variable, whatever it is asked. -/
def forgetful : App := fun _ c =>
  ⟨.returned .nothing, [], { c with host := c.host.restoreVariable workspaceVariable none }⟩

/-- An application that puts a configuration in force and leaves it there. -/
def overbearing : App := fun _ c => ⟨.returned .nothing, [], { c with active := some {} }⟩

/-- **What is not undone**: the variable stays unset if the application unsets it where no words are
left, and a configuration stays in force that the application puts there. -/
theorem run_leaves_changes_of_app :
    (¬ ∀ (app : App) (words : Option (List Text)) (c : Context), KeepsConfig app →
        (run app words c).context.workspace = c.workspace)
      ∧ ¬ ∀ (app : App) (words : Option (List Text)) (c : Context),
        (run app words c).context.current = c.current := by
  constructor
  · intro h
    let c : Context := { host := { bindings := [(workspaceVariable, "/ws")] } }
    have hunset : (run forgetful (some []) c).context.workspace = none := rfl
    have hset : c.workspace = some "/ws" := rfl
    have hsame := h forgetful (some []) c (fun _ _ => rfl)
    rw [hunset, hset] at hsame
    exact absurd hsame (by simp)
  · intro h
    have hafter : (run overbearing (some []) {}).context.current = .ok {} := rfl
    have hbefore : Context.current {} = .error (.config .notLoaded) := rfl
    have hsame := h overbearing (some []) {}
    rw [hafter, hbefore] at hsame
    exact absurd hsame (by simp)

end WorkspacePaths.Command
