import WorkspacePaths.Proofs.Command.Resolving

/-!
# `Proofs.Command.Handing` — a root is handed on to a command

A command line works out the root of its workspace, and the command works it out again, from what the
variable holds. Between the two the root is text, and text may be taken up anywhere: a root names
itself in every process, wherever that stands and whatever homes it knows. But the variable holds bytes.
What it gives back is the root that was put in, unless surrogates in it stand for bytes that make up
another code point; and the root that the command works out is the one that the variable gives back.

## Contents
- `Context.root`: the root that a command works out; `RunsIn`: where a command line runs its command.
- **Ways to a command.** `Barred`, `Reaches`, `dispatchIn_reaches`, `runCommandLine_reaches`.
- **Roots.** `root_of_workspace`, `expandCommand_of_root`.
- `workspaceRoot_handed_on`: roots in other processes and in commands; `workspaceRoot_handed_on_of_tilde`
  at one workspace, `workspaceRoot_changed_on_the_way` for a root that does not arrive.
-/

namespace WorkspacePaths.Command

open Utf8

/-- The root that a command works out whose own words name no workspace. -/
def Context.root (c : Context) : Option Text := c.host.workspaceRoot c.workspace

/-- A command line runs the words in this context: whatever the application, what it comes to there is
what the command line comes to. -/
def RunsIn (argv : Option (List Text)) (c : Context) (words : List Text) (inside : Context) : Prop :=
  ∀ app : App, (run app argv c).result = .ok (app words inside).result.report.close

variable {c inside : Context} {given : Option Text} {root : Text} {words : List Text}

/-! ## Ways to a command -/

/-- No command is reached: the system refuses the root, or the configuration of the root is needed and
cannot be loaded. -/
def Barred (root : Text) (words : List Text) (c : Context) : Prop :=
  SystemFault.ofText? root ≠ none
    ∨ (∃ command ∈ words.head?, command ∈ configured)
      ∧ ∃ failure, (loadConfig c.host c.host.environment (some root)).outcome = .error failure

/-- An application decides a report by what it comes to where the variable names the root; or it is not
reached, and then the report is the same for every application. -/
def Reaches (root : Text) (words : List Text) (c : Context) (report : App → Report) : Prop :=
  (Barred root words c ∧ ∃ failed : Report, failed.exit = .number 1 ∧ ∀ app, report app = failed)
    ∨ ∃ inside : Context, inside.workspace = some (canonical root)
      ∧ ∀ app, report app = (app words inside).result.report.close

/-- What is dispatched in a workspace runs while the variable names the root, unless the system refuses
the root. -/
theorem dispatchIn_cases (root : Text) (c : Context) :
    (SystemFault.ofText? root ≠ none
        ∧ ∃ message, ∀ body, (dispatchIn root body c).result = .failed message)
      ∨ ∀ body, (dispatchIn root body c).result
          = (body { c with host := c.host.naming root }).result := by
  by_cases hheld : SystemFault.ofText? root = none
  · right
    intro body
    exact dispatchIn_of_held hheld body c
  · left
    refine ⟨hheld, ?_⟩
    unfold dispatchIn withWorkspace
    cases hset : c.host.setVariable workspaceVariable root with
    | error fault => exact ⟨fault.message, fun _ => rfl⟩
    | ok host => exact absurd (Host.held_of_setVariable hset) hheld

/-- A dispatch in a workspace reaches the application, with any configuration in force. -/
theorem dispatchIn_reaches (active : Option Config) {body : App → Context → Run Dispatched}
    (hbody : ∀ app host, (body app { c with host }).result
      = (app words { c with host, active }).result.report) :
    Reaches root words c (fun app => (dispatchIn root (body app) c).result.close) := by
  rcases dispatchIn_cases root c with ⟨hrefused, message, hfailed⟩ | hruns
  · refine Or.inl ⟨Or.inl hrefused, unexpected message, rfl, ?_⟩
    intro app
    show (dispatchIn root (body app) c).result.close = _
    rw [hfailed]
    rfl
  · refine Or.inr ⟨{ c with host := c.host.naming root, active }, workspace_naming c root, ?_⟩
    intro app
    show (dispatchIn root (body app) c).result.close = _
    rw [hruns, hbody]

/-- **A command line reaches the application** where the variable names the root, if it is not barred. -/
theorem runCommandLine_reaches
    (hroot : c.host.workspaceRoot (given <|> c.workspace) = some root) :
    Reaches root words c (fun app => (runCommandLine app given words c).result) := by
  by_cases hconfigured : words.head?.any (fun command => configured.contains command) = true
  · have hdispatch : ∀ app, runCommandLine app given words c = dispatchConfigured root app words c :=
      fun app => runCommandLine_configured hroot hconfigured
    simp only [hdispatch]
    unfold dispatchConfigured
    cases hload : (loadConfig c.host c.host.environment (some root)).outcome with
    | error failure =>
      obtain ⟨command, hcommand, hin⟩ := (Option.any_eq_true _ _).mp hconfigured
      have hbarred : Barred root words c :=
        Or.inr ⟨⟨command, hcommand, List.contains_iff_mem.mp hin⟩, failure, hload⟩
      refine Or.inl ⟨hbarred, failureReport failure, ?_, ?_⟩
      · exact exit_failureReport failure
      · simp only [hload, implies_true]
    | ok config =>
      simp only [hload]
      exact dispatchIn_reaches (some config) (fun _ _ => rfl)
  · unfold runCommandLine
    simp only [workspaceRoot_eq_some_iff.mp hroot, if_neg hconfigured]
    exact dispatchIn_reaches c.active (fun _ _ => rfl)

/-! ## Roots -/

/-- The root that a command works out is the one that the variable gives back. -/
theorem root_of_workspace (h : IsRootSpelling root)
    (hworkspace : inside.workspace = some (canonical root)) :
    inside.root = some (canonical root) := by
  unfold Context.root
  rw [hworkspace]
  exact workspaceRoot_of_isRootSpelling h.canonical inside.host

/-- Entries are expanded under the root that the command works out. -/
theorem expandCommand_of_root (h : inside.root = some root) (entries : List Text) :
    expandCommand inside inside.workspace entries
      = (resolveAll inside.host.environment .posix ⟨.located, root⟩ entries).attempt.bind
          (fun paths => pure (Text.joinWith "\n" paths)) := by
  have hroot := workspaceRoot_eq_some_iff.mp h
  unfold expandCommand
  simp only [hroot]
  rfl

/-- **A root may be handed on.** The root that a process works out, from a path or from where it
stands, begins with one slash or two, and names stand behind that; and any other process works out
the same root from its text. A command line with that root hands it to the command: it is barred from
running any, and ends with an error, or it runs the command in a context where the command works out
the root as the variable gives it back, and expands entries under that. It is the root itself if it has
no surrogates. -/
theorem workspaceRoot_handed_on {p : Host} (hplaced : p.Placed)
    (hroot : p.workspaceRoot given = some root) :
    IsRootSpelling root
      ∧ (∀ q : Host, q.workspaceRoot (some root) = some root)
      ∧ ∀ (c : Context) (argv : Option (List Text)) (named : Option Text) (words : List Text),
        extractOverride (argv.getD c.host.arguments) = .ok (named, words) → words ≠ [] →
        c.host.workspaceRoot (named <|> c.workspace) = some root →
        (Barred root words c
            ∧ ∃ report, report.exit = .number 1 ∧ ∀ app, (run app argv c).result = .ok report)
          ∨ ∃ inside, RunsIn argv c words inside
            ∧ inside.root = some (canonical root)
            ∧ (∀ entries, expandCommand inside inside.workspace entries
              = (resolveAll inside.host.environment .posix ⟨.located, canonical root⟩
                  entries).attempt.bind (fun paths => pure (Text.joinWith "\n" paths)))
            ∧ (root.hasSurrogate = false → inside.root = some root) := by
  have hspelling := isRootSpelling_of_placed hplaced hroot
  refine ⟨hspelling, workspaceRoot_of_isRootSpelling hspelling, ?_⟩
  intro c argv named words hwords hne hnamed
  have hrun : ∀ app, (run app argv c).result = .ok (runCommandLine app named words c).result := by
    intro app
    unfold run
    rw [hwords]
    simp only [if_neg hne]
  rcases runCommandLine_reaches hnamed
    with ⟨hbarred, report, hexit, hends⟩ | ⟨inside, hworkspace, hruns⟩
  · left
    refine ⟨hbarred, report, hexit, ?_⟩
    intro app
    rw [hrun]
    exact congrArg Except.ok (hends app)
  · right
    have hinside := root_of_workspace hspelling hworkspace
    refine ⟨inside, ?_, hinside, expandCommand_of_root hinside, ?_⟩
    · intro app
      rw [hrun]
      exact congrArg Except.ok (hruns app)
    · intro hvalid
      rw [hinside, canonical_of_not_hasSurrogate hvalid]

/-! ## Two workspaces -/

/-- A process whose user has a relative home directory, with steps up in it. -/
def wanderer : Host := { cwd := "/srv", bindings := [(Host.homeVariable, "../h//./~")] }

/-- A root in such a home directory is handed on. -/
theorem workspaceRoot_handed_on_of_tilde :
    wanderer.Placed
      ∧ wanderer.workspaceRoot (some "~/./a/../ws") = some "/h/~/ws"
      ∧ IsRootSpelling "/h/~/ws"
      ∧ (∀ q : Host, q.workspaceRoot (some "/h/~/ws") = some "/h/~/ws")
      ∧ ∃ inside,
        RunsIn (some ["expand", workspaceOption, "~/./a/../ws", "."]) { host := wanderer }
          ["expand", "."] inside
        ∧ inside.root = some "/h/~/ws" := by
  have hplaced : wanderer.Placed := ⟨rfl, by decide⟩
  have hroot : wanderer.workspaceRoot (some "~/./a/../ws") = some "/h/~/ws" := by decide +kernel
  obtain ⟨hspelling, hsame, hhanded⟩ := workspaceRoot_handed_on hplaced hroot
  rcases hhanded { host := wanderer } (some ["expand", workspaceOption, "~/./a/../ws", "."])
      (some "~/./a/../ws") ["expand", "."] rfl (List.cons_ne_nil _ _) hroot
    with ⟨hbarred, _⟩ | ⟨inside, hruns, _, _, hinside⟩
  · -- the system takes the root, and expanding needs no configuration
    rcases hbarred with hrefused | ⟨hconfigured, _⟩
    · exact absurd rfl hrefused
    · exact absurd hconfigured (by decide)
  · exact ⟨hplaced, hroot, hspelling, hsame, inside, hruns, hinside rfl⟩

/-- A root with the surrogates that stand for the two bytes of one letter. -/
def escapedRoot : Text := ("/" : Text) ++ [escapedByte 0xC3, escapedByte 0xA9]

/-- **A root does not always arrive**: this one comes back from the variable with the letter. -/
theorem workspaceRoot_changed_on_the_way :
    ¬ ∀ (c : Context) (argv : Option (List Text)) (named : Option Text) (words : List Text)
      (root : Text) (inside : Context),
      c.host.Placed → extractOverride (argv.getD c.host.arguments) = .ok (named, words) →
      words ≠ [] → c.host.workspaceRoot (named <|> c.workspace) = some root →
      RunsIn argv c words inside → inside.root = some root := by
  intro h
  have hroot : Host.workspaceRoot {} (some escapedRoot) = some escapedRoot := by decide
  have hheld : SystemFault.ofText? escapedRoot = none := by decide
  have hruns : RunsIn (some ["expand", ".", workspaceOption, escapedRoot]) {} ["expand", "."]
      { host := Host.naming {} escapedRoot } := by
    intro app
    have hdispatch : (dispatchIn escapedRoot (dispatch app ["expand", "."]) {}).result
        = (app ["expand", "."] { host := Host.naming {} escapedRoot }).result.report :=
      dispatchIn_of_held hheld _ {}
    have hcommand : (runCommandLine app (some escapedRoot) ["expand", "."] {}).result
        = (dispatchIn escapedRoot (dispatch app ["expand", "."]) {}).result.close := by
      unfold runCommandLine
      rw [show (some escapedRoot <|> Context.workspace {}) = some escapedRoot from rfl,
        workspaceRoot_eq_some_iff.mp hroot]
      rfl
    rw [← hdispatch, ← hcommand]
    rfl
  have harrives := h {} _ (some escapedRoot) ["expand", "."] escapedRoot _ ⟨rfl, by decide⟩ rfl
    (List.cons_ne_nil _ _) hroot hruns
  have hletter : Context.root { host := Host.naming {} escapedRoot } = some "/é" := by decide
  rw [hletter] at harrives
  exact absurd harrives (by decide)

example : (run commands (some ["expand", ".", workspaceOption, escapedRoot]) {}).result.toOption
    = some { exit := .number 0, stdout := "/é\n" } := by decide +kernel

end WorkspacePaths.Command
