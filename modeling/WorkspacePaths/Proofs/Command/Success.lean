import WorkspacePaths.Command.CommandLine
import WorkspacePaths.Proofs.Command.Words
import WorkspacePaths.Proofs.Host.Roots
import WorkspacePaths.Proofs.Host.Variables
import WorkspacePaths.Proofs.Logged

/-!
# `Proofs.Command.Success` — command lines that end well

A command line that ends with code zero has got through every stage: the workspace was named by a
value and could be found, the system took its root into the variable, and the command yielded what was
printed. Taking these stages apart leaves, of each command, the one computation that it stands for, in
the process in which it ran.

## Contents
- **Stages.** `runCommand_of_success`, `dispatchIn_of_success`, `run_of_success`; `exit_failureReport`, as
  a failure before a command is an error.
- **Commands.** `run_resolve_of_success`, `run_expand_of_success`.
-/

namespace WorkspacePaths.Command

open Utf8

variable {c : Context} {root named : Text} {report : Report}

/-! ## Stages -/

/-- A command that ends well yields a text, which is printed. -/
theorem runCommand_of_success {command : Attempt Text}
    (h : (c.runCommand command).result.report.close.exit = .number 0) :
    ∃ t, command.outcome = .ok t
      ∧ (c.runCommand command).result.report.close = { exit := .number 0, stdout := line t } := by
  unfold Context.runCommand at h ⊢
  cases hcommand : command.outcome with
  | ok t => exact ⟨t, rfl, rfl⟩
  | error failure =>
    rw [hcommand] at h
    exact absurd h (by simp [Ending.report, Dispatched.close, unexpected])

/-- What ends well in a workspace has run while the variable named its root. -/
theorem dispatchIn_of_success {body : Context → Run Dispatched}
    (h : (dispatchIn root body c).result.close.exit = .number 0) :
    (dispatchIn root body c).result = (body { c with host := c.host.naming root }).result := by
  unfold dispatchIn withWorkspace at h ⊢
  cases hset : c.host.setVariable workspaceVariable root with
  | error fault =>
    rw [hset] at h
    exact absurd h (by simp [Dispatched.close, unexpected])
  | ok host => rw [Host.setVariable_workspace hset]

/-- The workspace that the variable names while it names a root. -/
theorem workspace_naming (c : Context) (root : Text) :
    Context.workspace { c with host := c.host.naming root } = some (canonical root) := by
  unfold Context.workspace
  rw [Host.get?_naming, if_pos rfl]

/-- A failure before a command is dispatched ends a command line with code one. -/
theorem exit_failureReport (failure : Failure) : (failureReport failure).exit = .number 1 := by
  cases failure with
  | config fault =>
    simp only [failureReport]
    split
    · rfl
    · rfl
  | _ => rfl

/-- A command that works on the configuration and ends well has run with the one that was loaded
before the variable was set. -/
theorem dispatchConfigured_of_success {app : App} {words : List Text}
    (h : (dispatchConfigured root app words c).result.exit = .number 0) :
    ∃ config, (loadConfig c.host c.host.environment (some root)).outcome = .ok config
      ∧ (dispatchConfigured root app words c).result
        = (app words { c with
            host := c.host.naming root, active := some config }).result.report.close := by
  unfold dispatchConfigured at h ⊢
  cases hload : (loadConfig c.host c.host.environment (some root)).outcome with
  | error failure =>
    simp only [hload] at h
    rw [exit_failureReport] at h
    exact absurd h (by simp)
  | ok config =>
    simp only [hload] at h ⊢
    exact ⟨config, rfl, congrArg Dispatched.close (dispatchIn_of_success h)⟩

theorem printSettings_eq_ok {config : Config} {t : Text} (h : printSettings config = .ok t) :
    t = Json.printLists config.pathSettings := by
  unfold printSettings at h
  split at h
  · exact absurd h (by simp)
  · exact (Except.ok.inj h).symm

/-- Words that name a workspace at their end, and no option before, are run in that workspace. -/
theorem run_of_success {app : App} {words : List Text}
    (hwords : ∀ word ∈ words, word.startsWith [hyphen] = false) (hne : words ≠ [])
    (h : (run app (some (words ++ [workspaceOption, named])) c).result = .ok report) :
    (runCommandLine app (some named) words c).result = report := by
  unfold run at h
  rw [Option.getD_some, extractOverride_append named hwords] at h
  cases hvalue : checkValue named with
  | error failure =>
    rw [hvalue] at h
    exact absurd h (by simp [Except.map])
  | ok value =>
    rw [hvalue, (no_hyphen_of_checkValue hvalue).1] at h
    simp only [Except.map, if_neg hne] at h
    exact Except.ok.inj h

/-! ## Commands -/

/-- **Resolving a configuration** prints the path settings of the one that was loaded before the
variable was set. -/
theorem run_resolve_of_success (hroot : c.host.workspaceRoot (some named) = some root)
    (h : (run commands (some ["resolve", workspaceOption, named]) c).result = .ok report)
    (hexit : report.exit = .number 0) :
    ∃ config, (loadConfig c.host c.host.environment (some root)).outcome = .ok config
      ∧ report.stdout = line (Json.printLists config.pathSettings) := by
  have hwords : ∀ word ∈ [("resolve" : Text)], word.startsWith [hyphen] = false := by decide
  have hrun : (dispatchConfigured root commands ["resolve"] c).result = report := by
    rw [← run_of_success hwords (List.cons_ne_nil _ _) h]
    unfold runCommandLine
    rw [show (some named <|> c.workspace) = some named from rfl, workspaceRoot_eq_some_iff.mp hroot]
    rfl
  rw [← hrun] at hexit
  obtain ⟨config, hload, hresult⟩ := dispatchConfigured_of_success hexit
  rw [hresult] at hexit hrun
  obtain ⟨t, ht, hreport⟩ := runCommand_of_success hexit
  -- the root that the command works out only decides whether it fails
  have hprint : printSettings config = .ok t := by
    unfold resolveCommand at ht
    split at ht
    · exact absurd ht (by simp)
    · exact ht
  rw [printSettings_eq_ok hprint] at hreport
  exact ⟨config, hload, hrun ▸ congrArg Report.stdout hreport⟩

/-- **Expanding entries** prints the paths that they stand for while the variable names the root, seen
from the root as the variable holds it. -/
theorem run_expand_of_success {entries : List Text} (hspelled : IsRootSpelling root)
    (hentries : ∀ entry ∈ entries, entry.startsWith [hyphen] = false)
    (hroot : c.host.workspaceRoot (some named) = some root)
    (h : (run commands (some (("expand" : Text) :: entries ++ [workspaceOption, named])) c).result
      = .ok report)
    (hexit : report.exit = .number 0) :
    ∃ paths,
      (resolveAll (c.host.naming root).environment .posix ⟨.located, canonical root⟩
        entries).outcome = .ok paths
      ∧ report.stdout = line (Text.joinWith "\n" paths) := by
  have hwords : ∀ word ∈ ("expand" : Text) :: entries, word.startsWith [hyphen] = false := by
    intro word hword
    rcases List.mem_cons.mp hword with rfl | hin
    · rfl
    · exact hentries word hin
  have hrun : (dispatchIn root (dispatch commands (("expand" : Text) :: entries)) c).result.close
      = report := by
    rw [← run_of_success hwords (List.cons_ne_nil _ _) h]
    unfold runCommandLine
    rw [show (some named <|> c.workspace) = some named from rfl, workspaceRoot_eq_some_iff.mp hroot]
    rfl
  rw [← hrun] at hexit
  have hinside := dispatchIn_of_success hexit
  rw [hinside] at hexit hrun
  have hcommand : commands (("expand" : Text) :: entries) { c with host := c.host.naming root }
      = Context.runCommand { c with host := c.host.naming root }
          (expandCommand { c with host := c.host.naming root } (some (canonical root)) entries) := by
    unfold commands
    rw [ofWords_expand hentries]
    simp only [workspace_naming]
    rfl
  unfold dispatch at hexit hrun
  simp only [hcommand] at hexit hrun
  obtain ⟨t, ht, hreport⟩ := runCommand_of_success hexit
  -- what the variable gives back is a root again, and names itself
  have hself := workspaceRoot_eq_some_iff.mp
    (workspaceRoot_of_isRootSpelling hspelled.canonical (c.host.naming root))
  unfold expandCommand at ht
  simp only [hself] at ht
  obtain ⟨paths, hpaths, hjoin⟩ := Logged.bind_eq_ok_iff.mp ht
  refine ⟨paths, Logged.mapFault_eq_ok_iff.mp hpaths, ?_⟩
  rw [← hrun, hreport, ← Except.ok.inj hjoin]

end WorkspacePaths.Command
