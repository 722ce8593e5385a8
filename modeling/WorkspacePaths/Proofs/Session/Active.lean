import WorkspacePaths.Proofs.Command.Resolving
import WorkspacePaths.Proofs.Session.Steps

/-!
# `Proofs.Session.Active` — the configuration in force in a session

Configurations are entered inside one another. A session knows the one in force, and what stood there
before each one that is still entered; so its memory is the stack of those, with the innermost taken
off. Entering and leaving work on the stack, and nothing else does. Hence, after any steps, the
configuration in force is the innermost of those that were entered and not left: the one whose entering
is followed by steps in which every other entered configuration is left again.

## Contents
- **Innermost configurations.** `Nested`, steps that leave what they enter; `Innermost`.
- **Stacks.** `Step.nest`, `entered`; `entered_of_innermost` and `innermost_of_entered`, that the
  stack begins with the innermost configuration.
- **Sessions.** `Session.Holds`; `holds_step`, `holds_run`.
- `run_active`: the configuration in force, and the command that prints it; `run_active_of_tangled` for
  a run with failures. `run_active_without_home`: where that command prints nothing.
-/

namespace WorkspacePaths

open Command

/-! ## Innermost configurations -/

/-- Steps that leave the configurations which they enter, and no others. A document that is rejected
enters nothing. -/
inductive Nested : List Step → Prop where
  | nil : Nested []
  | rejected {document : Members} {fault : ShapeFault} {rest : List Step}
      (h : Config.ofMembers document = .error fault) (hrest : Nested rest) :
      Nested (.enter document :: rest)
  | other {step : Step} {rest : List Step} (h : step.nests = false) (hrest : Nested rest) :
      Nested (step :: rest)
  | within {document : Members} {config : Config} {inner rest : List Step}
      (h : Config.ofMembers document = .ok config) (hinner : Nested inner) (hrest : Nested rest) :
      Nested (.enter document :: (inner ++ .leave :: rest))

/-- The configuration that the last of some steps to be entered and not left has entered. -/
def Innermost (steps : List Step) (config : Config) : Prop :=
  ∃ before document after, steps = before ++ .enter document :: after
    ∧ Config.ofMembers document = .ok config ∧ Nested after

theorem Nested.append {steps more : List Step} (h : Nested steps) (hmore : Nested more) :
    Nested (steps ++ more) := by
  induction h with
  | nil => exact hmore
  | rejected hfault _ ih => exact .rejected hfault ih
  | other hother _ ih => exact .other hother ih
  | within hconfig hinner _ _ ih =>
    rw [List.cons_append, List.append_assoc, List.cons_append]
    exact .within hconfig hinner ih

/-! ## Stacks -/

variable {step : Step} {steps : List Step} {stack rest : List Config} {config : Config}

/-- The configurations that are entered behind a step, the innermost first. -/
def Step.nest (stack : List Config) : Step → List Config
  | .enter document =>
    match Config.ofMembers document with
    | .ok config => config :: stack
    | .error _ => stack
  | .leave => stack.tail
  | _ => stack

/-- The configurations that are entered and not left, the innermost first. -/
def entered (steps : List Step) : List Config := steps.foldl Step.nest []

theorem nest_of_not_nests (h : step.nests = false) : step.nest stack = stack := by
  cases step with
  | enter document => exact absurd h (by simp [Step.nests])
  | leave => exact absurd h (by simp [Step.nests])
  | _ => rfl

theorem nest_enter {document : Members} (h : Config.ofMembers document = .ok config) :
    (Step.enter document).nest stack = config :: stack := by
  unfold Step.nest
  simp only [h]

theorem nest_rejected {document : Members} {fault : ShapeFault}
    (h : Config.ofMembers document = .error fault) : (Step.enter document).nest stack = stack := by
  unfold Step.nest
  simp only [h]

/-- Nested steps leave every stack as it was. -/
theorem foldl_nest_of_nested (h : Nested steps) (stack : List Config) :
    steps.foldl Step.nest stack = stack := by
  induction h generalizing stack with
  | nil => rfl
  | rejected hfault _ ih =>
    rw [List.foldl_cons, nest_rejected hfault]
    exact ih stack
  | other hother _ ih =>
    rw [List.foldl_cons, nest_of_not_nests hother]
    exact ih stack
  | within hconfig _ _ ihinner ih =>
    rw [List.foldl_cons, nest_enter hconfig, List.foldl_append, ihinner]
    exact ih stack

theorem entered_append_singleton (steps : List Step) (step : Step) :
    entered (steps ++ [step]) = step.nest (entered steps) := by
  unfold entered
  rw [List.foldl_append]
  rfl

/-- The innermost configuration is at the front of the stack. -/
theorem entered_of_innermost (h : Innermost steps config) :
    ∃ rest, entered steps = config :: rest := by
  obtain ⟨before, document, after, rfl, hconfig, hnested⟩ := h
  refine ⟨entered before, ?_⟩
  unfold entered
  rw [List.foldl_append, List.foldl_cons, nest_enter hconfig, foldl_nest_of_nested hnested]

/-- Some steps enter a configuration on top of a stack, and leave what they enter after it. -/
def EntersOn (steps : List Step) (config : Config) (rest : List Config) : Prop :=
  ∃ before document after, steps = before ++ .enter document :: after
    ∧ Config.ofMembers document = .ok config ∧ Nested after ∧ entered before = rest

theorem EntersOn.append {more : List Step} (h : EntersOn steps config rest) (hmore : Nested more) :
    EntersOn (steps ++ more) config rest := by
  obtain ⟨before, document, after, rfl, hconfig, hnested, hbefore⟩ := h
  exact ⟨before, document, after ++ more, by simp, hconfig, hnested.append hmore, hbefore⟩

/-- **A stack has grown step by step**: the configuration at its front was entered on top of the others,
and whatever was entered after it has been left. -/
theorem entersOn_of_entered (h : entered steps = config :: rest) : EntersOn steps config rest := by
  -- by strong induction, as leaving a configuration goes back to where it was entered
  obtain ⟨n, hlength⟩ : ∃ n, steps.length ≤ n := ⟨_, Nat.le_refl _⟩
  induction n generalizing steps config rest with
  | zero =>
    obtain rfl : steps = [] := List.eq_nil_of_length_eq_zero (Nat.le_zero.mp hlength)
    exact absurd h (by simp [entered])
  | succ n ih =>
    rcases List.eq_nil_or_concat steps with rfl | ⟨init, last, hsplit⟩
    · exact absurd h (by simp [entered])
    · rw [List.concat_eq_append] at hsplit
      subst hsplit
      have hinit : init.length ≤ n := by simpa using hlength
      rw [entered_append_singleton] at h
      by_cases hnests : last.nests = false
      · rw [nest_of_not_nests hnests] at h
        exact (ih h hinit).append (.other hnests .nil)
      · cases last with
        | enter document =>
          cases hconfig : Config.ofMembers document with
          | error fault =>
            rw [nest_rejected hconfig] at h
            exact (ih h hinit).append (.rejected hconfig .nil)
          | ok entering =>
            rw [nest_enter hconfig] at h
            obtain ⟨rfl, rfl⟩ := List.cons.inj h
            exact ⟨init, document, [], rfl, hconfig, .nil, rfl⟩
        | leave =>
          obtain ⟨top, htop⟩ : ∃ top, entered init = top :: config :: rest := by
            cases hstack : entered init with
            | nil => exact absurd h (by simp [Step.nest, hstack])
            | cons top below => exact ⟨top, by rw [← h, hstack]; rfl⟩
          obtain ⟨before, document, after, rfl, hconfig, hafter, hbefore⟩ := ih htop hinit
          have hshorter : before.length ≤ n := by
            rw [List.length_append] at hinit
            omega
          rw [List.append_assoc]
          exact (ih hbefore hshorter).append (.within hconfig hafter .nil)
        | _ => exact absurd rfl hnests

theorem innermost_of_entered (h : entered steps = config :: rest) : Innermost steps config := by
  obtain ⟨before, document, after, hsteps, hconfig, hnested, _⟩ := entersOn_of_entered h
  exact ⟨before, document, after, hsteps, hconfig, hnested⟩

/-! ## Sessions -/

namespace Session

/-- What was in force before each of the configurations on a stack. -/
def remembered : List Config → List (Option Config)
  | [] => []
  | _ :: rest => rest.head? :: remembered rest

/-- A session in which the configurations on a stack are entered, and no others. -/
structure Holds (s : Session) (stack : List Config) : Prop where
  active : s.context.active = stack.head?
  saved : s.saved = remembered stack

variable {s : Session}

theorem Holds.enter (h : s.Holds stack) (config : Config) : (s.enter config).Holds (config :: stack) where
  active := rfl
  saved := by
    show s.context.active :: s.saved = stack.head? :: remembered stack
    rw [h.active, h.saved]

theorem Holds.leave (h : s.Holds stack) : s.leave.Holds stack.tail := by
  unfold Session.leave
  cases stack with
  | nil =>
    have hsaved : s.saved = [] := h.saved
    rw [hsaved]
    exact h
  | cons top below =>
    have hsaved : s.saved = below.head? :: remembered below := h.saved
    rw [hsaved]
    exact ⟨rfl, rfl⟩

/-- **A step** does to what is entered what it does to the stack. -/
theorem holds_step (h : s.Holds stack) (happ : step.Uses KeepsConfig) :
    (s.step step).2.Holds (step.nest stack) := by
  by_cases hnests : step.nests = false
  · obtain ⟨hactive, hsaved⟩ := s.active_step hnests happ
    rw [nest_of_not_nests hnests]
    exact ⟨hactive.trans h.active, hsaved.trans h.saved⟩
  · cases step with
    | enter document =>
      cases hconfig : Config.ofMembers document with
      | ok config =>
        rw [nest_enter hconfig]
        simp only [Session.step, hconfig]
        exact h.enter config
      | error fault =>
        rw [nest_rejected hconfig]
        simp only [Session.step, hconfig]
        exact h
    | leave => exact h.leave
    | _ => exact absurd rfl hnests

/-- **A run** does to what is entered what its steps do to the stack. -/
theorem holds_run (h : s.Holds stack) (happs : ∀ step ∈ steps, step.Uses KeepsConfig) :
    (s.run steps).2.Holds (steps.foldl Step.nest stack) := by
  induction steps generalizing s stack with
  | nil => exact h
  | cons step rest ih =>
    rw [List.forall_mem_cons] at happs
    rw [run_cons, List.foldl_cons]
    exact ih (holds_step h happs.1) happs.2

theorem holds_start (p : Host) : (start p).Holds [] := ⟨rfl, rfl⟩

theorem step_current_of_active (h : s.context.active = some config) :
    s.step .current = (pure (.config config), s) := by
  simp only [Session.step, Context.current, h]
  rfl

theorem step_current_of_none (h : s.context.active = none) :
    s.step .current = (Logged.fail (.config .notLoaded), s) := by
  simp only [Session.step, Context.current, h]
  rfl

/-- A path that names no workspace root is an error before anything is printed. -/
theorem step_resolve_of_fault {root : Option Text} {fault : HomeFault}
    (h : s.context.host.rootOf root = .error fault) :
    s.step (.resolve root) = (Logged.fail (.ofHome fault), s) := by
  simp only [Session.step, resolveCommand, h]
  rfl

theorem step_resolve_of_active {root : Option Text} (hactive : s.context.active = some config)
    (hroot : (s.context.host.workspaceRoot root).isSome) :
    s.step (.resolve root) = (Logged.lift ((printSettings config).map Result.text), s) := by
  obtain ⟨path, hpath⟩ := Option.isSome_iff_exists.mp hroot
  simp only [Session.step, resolveCommand_of_active hactive hpath]
  cases printSettings config with
  | error failure => rfl
  | ok document => rfl

/-! ## Runs -/

/-- **The configuration in force** after any steps, whichever of them fail, is the innermost of those
that were entered and not left; without one, asking for it is an error. A document that is rejected
enters nothing. While a configuration is in force, resolving prints its path settings, as a document that
is read as just these, whatever root is given and whatever the files hold. It fails only if the path that
is given names no root, for the reason why it names none, or if a path setting holds a surrogate. None of
this changes the session. -/
theorem run_active (p : Host) {steps : List Step} (happs : ∀ step ∈ steps, step.Uses KeepsConfig) :
    let last := ((start p).run steps).2
    (∀ config, Innermost steps config →
      last.step .current = (pure (.config config), last)
      ∧ Json.read (Json.printLists config.pathSettings)
          = .ok (.object (config.pathSettings.map (fun setting =>
              (setting.1, .array (setting.2.map Value.text)))))
      ∧ ∀ root,
        (∀ fault, last.context.host.rootOf root = .error fault →
          last.step (.resolve root) = (Logged.fail (.ofHome fault), last))
        ∧ ((last.context.host.workspaceRoot root).isSome →
          ((∀ setting ∈ config.pathSettings, ∀ path ∈ setting.2, path.hasSurrogate = false) →
            last.step (.resolve root) = (pure (.text (Json.printLists config.pathSettings)), last))
          ∧ ∀ setting ∈ config.pathSettings, ∀ path ∈ setting.2, path.hasSurrogate = true →
            ∃ fault, last.step (.resolve root) = (Logged.fail (.encoding fault), last)))
    ∧ ((¬ ∃ config, Innermost steps config) →
        last.step .current = (Logged.fail (.config .notLoaded), last))
    ∧ ∀ document fault, Config.ofMembers document = .error fault →
        last.step (.enter document) = (Logged.fail (Failure.ofShape fault), last) := by
  intro last
  have hactive : last.context.active = (entered steps).head? :=
    (holds_run (holds_start p) happs).active
  refine ⟨?_, ?_, ?_⟩
  · intro config hinnermost
    obtain ⟨rest, hstack⟩ := entered_of_innermost hinnermost
    have hconfig : last.context.active = some config := by
      rw [hactive, hstack]
      rfl
    refine ⟨step_current_of_active hconfig, ?_, fun root => ⟨fun _ => step_resolve_of_fault, ?_⟩⟩
    · have hread : Json.read (Json.printLists config.pathSettings ++ []) = .ok (.object _) :=
        Json.read_printLists (by simp [Config.pathSettings]) (by simp)
      rwa [List.append_nil] at hread
    · intro hroot
      have hresolve := step_resolve_of_active hconfig hroot
      constructor
      · intro hvalid
        rw [hresolve, printSettings_of_valid hvalid]
        rfl
      · intro setting hsetting path hpath hsurrogate
        obtain ⟨fault, hfault⟩ := printSettings_of_surrogate hsetting hpath hsurrogate
        refine ⟨fault, ?_⟩
        rw [hresolve, hfault]
        rfl
  · intro hnone
    -- a stack that is not empty would have an innermost configuration
    refine step_current_of_none ?_
    rw [hactive]
    cases hstack : entered steps with
    | nil => rfl
    | cons config rest => exact absurd ⟨config, innermost_of_entered hstack⟩ hnone
  · intro document fault hfault
    simp only [Session.step, hfault]
    rfl

/-- A document with libraries. -/
def librariesDocument (paths : List Text) : Members :=
  [("workspace", .object [("library", .array (paths.map Value.text))])]

/-- A run in which a document is rejected, a command is interrupted, one finds no file and a
configuration is left twice. -/
def tangled : List Step :=
  [.leave, .enter (librariesDocument ["/outer"]), .enter [("workspace", .null)],
    .enter (librariesDocument ["/inner"]), .command (fun _ c => ⟨.interrupted, [], c⟩) (some ["x"]),
    .load "l", .leave, .command commands (some ["resolve"]), .enter (librariesDocument ["/last"]),
    .leave]

/-- What was entered first is in force behind all of these, and printed for a root that is not there. -/
theorem run_active_of_tangled :
    (∀ step ∈ tangled, step.Uses KeepsConfig)
      ∧ (((start {}).run tangled).2.step .current).1 = pure (.config { library := ["/outer"] })
      ∧ (((start {}).run tangled).2.step (.resolve (some "/nowhere"))).1
          = pure (.text (Json.printLists { library := ["/outer"] : Config }.pathSettings)) := by
  have happs : ∀ step ∈ tangled, step.Uses KeepsConfig := by
    have hinterrupted : KeepsConfig (fun _ c => ⟨.interrupted, [], c⟩) := fun _ _ => rfl
    simp [tangled, Step.Uses, hinterrupted, keepsConfig_commands.1]
  have hstack : entered tangled = [{ library := ["/outer"] }] := rfl
  have hinnermost : Innermost tangled { library := ["/outer"] } := innermost_of_entered hstack
  obtain ⟨hcurrent, _, hresolve⟩ := (run_active {} happs).1 _ hinnermost
  have hvalid := ((hresolve (some "/nowhere")).2 (by decide +kernel)).1 (by decide)
  exact ⟨happs, congrArg Prod.fst hcurrent, congrArg Prod.fst hvalid⟩

/-- **Resolving does not print what is in force for every root**: one in a home directory that nobody
knows is refused. -/
theorem run_active_without_home :
    ¬ ∀ (p : Host) (steps : List Step) (config : Config) (root : Option Text),
      (∀ step ∈ steps, step.Uses KeepsConfig) → Innermost steps config →
        ∃ document, (((start p).run steps).2.step (.resolve root)).1.outcome = .ok (.text document) := by
  intro h
  let steps : List Step := [.enter (librariesDocument ["/active"])]
  have hstack : entered steps = [{ library := ["/active"] }] := rfl
  have hinnermost : Innermost steps { library := ["/active"] } := innermost_of_entered hstack
  obtain ⟨document, hdocument⟩ :=
    h {} steps _ (some "~") (by simp [steps, Step.Uses]) hinnermost
  have hfault : ((start {}).run steps).2.context.host.rootOf (some "~") = .error .undetermined := by
    decide +kernel
  rw [step_resolve_of_fault hfault] at hdocument
  exact absurd hdocument (by simp)

end Session

end WorkspacePaths
