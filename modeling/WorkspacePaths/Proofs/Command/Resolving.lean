import WorkspacePaths.Proofs.Command.Success
import WorkspacePaths.Proofs.Config.Loading
import WorkspacePaths.Proofs.Document.RoundTrip

/-!
# `Proofs.Command.Resolving` — what the resolving command line comes to

The words of the command line are handed over twice before anything is printed. The root of the
workspace goes into a variable, from which the command takes it again; the configuration is put in
force, where the command finds it. The root comes back changed from the variable, perhaps, but still
absolute, so the command can work out a workspace; and as a configuration is in force, the command
looks for no other one, whichever workspace that is. So what is printed is settled before the command
runs: by whether the configuration of the root can be loaded, and by what it holds.

## Contents
- **Stages.** `run_of_words`, `runCommandLine_configured`, `dispatchConfigured_of_loaded`; and
  `dispatchConfigured_of_failure`, with `failureReport_of_config` and `failureReport_of_other`.
- **The command.** `resolveCommand_of_active`, `printSettings_of_valid`, `printSettings_of_surrogate`.
- `run_resolve_outcome`: what the command line comes to; `run_resolve_of_last` at one workspace.
-/

namespace WorkspacePaths.Command

open Utf8

variable {c : Context} {app : App} {root : Text} {given : Option Text} {words others : List Text}
  {config : Config}

/-! ## Stages -/

/-- What runs in a workspace finds the variable naming the root, if the system can hold that. -/
theorem dispatchIn_of_held (hheld : SystemFault.ofText? root = none)
    (body : Context → Run Dispatched) (c : Context) :
    (dispatchIn root body c).result = (body { c with host := c.host.naming root }).result := by
  unfold dispatchIn withWorkspace
  rw [Host.setVariable_of_held c.host hheld]

/-- A command line whose options have their values runs the words without them in the workspace that
the last value names. -/
theorem run_of_words {argv : Option (List Text)}
    (hwords : (extractOverride (argv.getD c.host.arguments)).map Prod.snd = .ok others)
    (hne : others ≠ []) :
    (run app argv c).result
      = .ok (runCommandLine app (workspaceValues (argv.getD c.host.arguments)).getLast? others
          c).result := by
  unfold run
  cases hextract : extractOverride (argv.getD c.host.arguments) with
  | error failure =>
    rw [hextract] at hwords
    exact absurd hwords (by simp [Except.map])
  | ok found =>
    obtain ⟨named, rest⟩ := found
    rw [hextract] at hwords
    obtain rfl : rest = others := Except.ok.inj hwords
    simp only [if_neg hne, named_eq_getLast? hextract]

/-- A command that works on the configuration is dispatched in the workspace that was settled. -/
theorem runCommandLine_configured (hroot : c.host.workspaceRoot (given <|> c.workspace) = some root)
    (hconfigured : words.head?.any (fun command => configured.contains command) = true) :
    runCommandLine app given words c = dispatchConfigured root app words c := by
  unfold runCommandLine
  simp only [workspaceRoot_eq_some_iff.mp hroot, if_pos hconfigured]

/-- A configuration that cannot be loaded ends the command line with a report. -/
theorem dispatchConfigured_of_failure {failure : Failure}
    (hload : (loadConfig c.host c.host.environment (some root)).outcome = .error failure) :
    (dispatchConfigured root app words c).result = failureReport failure := by
  unfold dispatchConfigured
  simp only [hload]

/-- What is reported is an error of the configuration, unless it lies with the system. -/
theorem failureReport_of_config {fault : ConfigFault} (h : fault.isRefusal = false) :
    failureReport (.config fault) = configurationError fault := by
  simp only [failureReport, h]
  rfl

/-- Whatever else goes wrong is not expected. -/
theorem failureReport_of_other {failure : Failure}
    (h : ∀ fault, failure = .config fault → fault.isRefusal = true) :
    failureReport failure = unexpected failure.message := by
  cases failure with
  | config fault =>
    simp only [failureReport, h fault rfl]
    rfl
  | _ => rfl

/-- A configuration that was loaded is in force while the command runs, and the variable names the
root. -/
theorem dispatchConfigured_of_loaded (hheld : SystemFault.ofText? root = none)
    (hload : (loadConfig c.host c.host.environment (some root)).outcome = .ok config) :
    (dispatchConfigured root app words c).result
      = (app words { c with
          host := c.host.naming root, active := some config }).result.report.close := by
  unfold dispatchConfigured
  simp only [hload]
  exact congrArg Dispatched.close (dispatchIn_of_held hheld _ c)

/-! ## The command -/

theorem printSettings_of_valid
    (h : ∀ setting ∈ config.pathSettings, ∀ path ∈ setting.2, path.hasSurrogate = false) :
    printSettings config = .ok (Json.printLists config.pathSettings) := by
  have hnone : (config.pathSettings.flatMap Prod.snd).findSome? Text.encodingFault? = none := by
    rw [List.findSome?_eq_none_iff]
    intro path hpath
    obtain ⟨setting, hsetting, hin⟩ := List.mem_flatMap.mp hpath
    exact Text.encodingFault?_eq_none_iff.mpr (h setting hsetting path hin)
  unfold printSettings
  rw [hnone]

/-- A path setting with a surrogate cannot be printed. -/
theorem printSettings_of_surrogate {setting : Text × List Text} {path : Text}
    (hsetting : setting ∈ config.pathSettings) (hpath : path ∈ setting.2)
    (h : path.hasSurrogate = true) : ∃ fault, printSettings config = .error (.encoding fault) := by
  unfold printSettings
  cases hfault : (config.pathSettings.flatMap Prod.snd).findSome? Text.encodingFault? with
  | some fault => exact ⟨fault, rfl⟩
  | none =>
    have hnone : path.encodingFault? = none :=
      List.findSome?_eq_none_iff.mp hfault path (List.mem_flatMap.mpr ⟨setting, hsetting, hpath⟩)
    rw [Text.encodingFault?_eq_none_iff.mp hnone] at h
    exact absurd h (by simp)

/-- With a configuration in force, the root only decides whether the command fails. -/
theorem resolveCommand_of_active (hactive : c.active = some config)
    (hroot : c.host.workspaceRoot given = some root) :
    resolveCommand c given = Logged.lift (printSettings config) := by
  unfold resolveCommand
  simp only [workspaceRoot_eq_some_iff.mp hroot, hactive, pure_bind]

/-- The command finds an absolute root in the variable, and the configuration in force. -/
theorem commands_resolve (hstart : root.startsWith "/" = true)
    (h : ∀ setting ∈ config.pathSettings, ∀ path ∈ setting.2, path.hasSurrogate = false)
    (c : Context) :
    (commands ["resolve"] { c with
        host := c.host.naming root, active := some config }).result.report.close
      = { exit := .number 0, stdout := line (Json.printLists config.pathSettings) } := by
  let inside : Context := { c with host := c.host.naming root, active := some config }
  show (inside.runCommand (resolveCommand inside inside.workspace)).result.report.close = _
  have hnamed : inside.workspace = some (canonical root) := workspace_naming c root
  obtain ⟨again, hagain, _⟩ := exists_workspaceRoot inside.host (canonical_startsWith hstart)
  have houtcome : (resolveCommand inside inside.workspace).outcome
      = .ok (Json.printLists config.pathSettings) := by
    rw [hnamed, resolveCommand_of_active rfl hagain, Logged.outcome_lift, printSettings_of_valid h]
  unfold Context.runCommand
  rw [houtcome]
  rfl

/-! ## The command line -/

/-- **What resolving a workspace comes to.** The root is that of the last value that the command line
gives to the option, else of the value that the variable has, else the current directory. If the
configuration of the root cannot be had for an error of its own, the command line ends with code one, and
the error is all that is printed. If it can be loaded, and none of its path settings holds a surrogate,
the command line ends with code zero, and what is printed is a document that is read as just these
settings. If loading fails in any other way, that is reported as unexpected. -/
theorem run_resolve_outcome {argv : Option (List Text)} (hcwd : c.host.cwd.startsWith "/" = true)
    (hwords : (extractOverride (argv.getD c.host.arguments)).map Prod.snd = .ok ["resolve"])
    (hroot : c.host.workspaceRoot
      ((workspaceValues (argv.getD c.host.arguments)).getLast? <|> c.workspace) = some root)
    (hheld : SystemFault.ofText? root = none) :
    (∀ fault,
      (loadConfig c.host c.host.environment (some root)).outcome = .error (.config fault) →
      fault.isRefusal = false →
      (run commands argv c).result
        = .ok { exit := .number 1, stdout := [],
                stderr := line (("Configuration error: " : Text) ++ fault.message) })
    ∧ (∀ config, (loadConfig c.host c.host.environment (some root)).outcome = .ok config →
      (∀ setting ∈ config.pathSettings, ∀ path ∈ setting.2, path.hasSurrogate = false) →
      ∃ document,
        (run commands argv c).result = .ok { exit := .number 0, stdout := document, stderr := [] }
        ∧ Json.read document
          = .ok (.object (config.pathSettings.map (fun setting =>
              (setting.1, .array (setting.2.map Value.text))))))
    ∧ ∀ failure, (loadConfig c.host c.host.environment (some root)).outcome = .error failure →
      (∀ fault, failure = .config fault → fault.isRefusal = true) →
      (run commands argv c).result
        = .ok { exit := .number 1, stdout := [],
                stderr := line (("Unexpected error: " : Text) ++ failure.message) } := by
  have hrun : (run commands argv c).result
      = .ok (dispatchConfigured root commands ["resolve"] c).result := by
    rw [run_of_words hwords (by simp), runCommandLine_configured hroot rfl]
  have hstart : root.startsWith "/" = true := startsWith_workspaceRoot hcwd hroot
  refine ⟨?_, ?_, ?_⟩
  · intro fault hload hfault
    rw [hrun, dispatchConfigured_of_failure hload, failureReport_of_config hfault]
    rfl
  · intro config hload hvalid
    refine ⟨line (Json.printLists config.pathSettings), ?_, ?_⟩
    · rw [hrun, dispatchConfigured_of_loaded hheld hload, commands_resolve hstart hvalid]
    · exact Json.read_printLists (by simp [Config.pathSettings]) (by decide)
  · intro failure hload hother
    rw [hrun, dispatchConfigured_of_failure hload, failureReport_of_other hother]
    rfl

/-- A process whose variable names one workspace, while another one has a library whose name is written
with escapes. -/
def escapingHost : Host :=
  let source : Text :=
    "\x7b\"workspace\": \x7b\"library\": [\"q\\\"\\\\\\u00e9\\u0007\"]\x7d\x7d"
  { bindings := [(workspaceVariable, "/other")]
    files := [("/ws/.emmyrc.json", ⟨source.map (fun c => UInt8.ofNat c.value), 0⟩)] }

/-- The last value counts, whatever the variable and the values before it name, and whichever
configuration was in force; and if there is no configuration file, that is what is printed. -/
theorem run_resolve_of_last :
    (∃ document,
      (run commands (some ["--workspace-root=/x", "resolve", "--workspace-root", "/ws"])
        { host := escapingHost, active := some { library := ["/old"] } }).result
          = .ok { exit := .number 0, stdout := document, stderr := [] }
      ∧ Json.read document = .ok (.object [("workspaceRoots", .array []),
          ("library", .array [.text "/ws/q\"\\é\x07"]), ("ignoreDir", .array []),
          ("resourcePaths", .array [])]))
    ∧ (run commands (some ["resolve"]) { host := escapingHost }).result
        = .ok { exit := .number 1, stdout := [],
                stderr := "Configuration error: Configuration file not found: /other/.emmyrc.json\n" } := by
  constructor
  · let argv : Option (List Text) :=
      some ["--workspace-root=/x", "resolve", "--workspace-root", "/ws"]
    have hload : (loadConfig escapingHost escapingHost.environment (some "/ws")).outcome
        = .ok { library := ["/ws/q\"\\é\x07"] } :=
      toOption_eq_some_iff.mp (by decide +kernel)
    have hwords : (extractOverride (argv.getD escapingHost.arguments)).map Prod.snd
        = .ok ["resolve"] := rfl
    have hroot : escapingHost.workspaceRoot (some "/ws") = some "/ws" := by decide +kernel
    have hheld : SystemFault.ofText? "/ws" = none := by decide
    exact (run_resolve_outcome (c := { host := escapingHost, active := some { library := ["/old"] } })
      rfl hwords hroot hheld).2.1 _ hload (by decide)
  · let argv : Option (List Text) := some ["resolve"]
    have hload : (loadConfig escapingHost escapingHost.environment (some "/other")).outcome
        = .error (.config (.missing "/other/.emmyrc.json")) := rfl
    have hwords : (extractOverride (argv.getD escapingHost.arguments)).map Prod.snd
        = .ok ["resolve"] := rfl
    have hroot : escapingHost.workspaceRoot (some "/other") = some "/other" := by decide +kernel
    have hheld : SystemFault.ofText? "/other" = none := by decide
    exact (run_resolve_outcome (c := { host := escapingHost }) rfl hwords hroot hheld).1 _ hload rfl

end WorkspacePaths.Command
