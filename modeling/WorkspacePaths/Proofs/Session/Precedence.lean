import WorkspacePaths.Proofs.Config.Reading
import WorkspacePaths.Proofs.Session.Steps

/-!
# `Proofs.Session.Precedence` — the file that is chosen, and stays so

Of the two files that a workspace may be configured by, the JSON file is chosen if it is there. What the
TOML file holds then makes no difference: a JSON file that cannot be read is an error, not a reason to
try the other one. The choice is made when a loader is made, and for good. Files come and go in a
session, and other loaders are made for the same workspace, but a loader that is kept reads the file it
was made for, or misses it.

## Contents
- **Loaders that are kept.** `loader?_keep`; `Step.rebuilds`, with `bound_step` and `bound_run`: a loader
  stays bound to its file.
- **Their steps.** `step_keepLoader_of_chosen`, `step_keepLoader_of_fault`; `step_load_of_loader`, and
  `step_load_eq_missing_iff`, when using a loader misses its file.
- `json_takes_precedence`: loading and keeping loaders; `json_takes_precedence_when_broken` at a workspace
  with a broken JSON file, and `loadConfig_refuses_long_root` where no file is looked for.
-/

namespace WorkspacePaths

/-- The step makes a new loader to be kept under a name. -/
def Step.rebuilds (name : Text) : Step → Bool
  | .keepLoader other _ => other = name
  | _ => false

namespace Session

variable {s : Session} {step : Step} {steps : List Step} {name : Text} {loader : Loader}

/-! ## Loaders that are kept -/

theorem loader?_keep (s : Session) (name : Text) (loader : Loader) (other : Text) :
    (s.keep name loader).loader? other = if other = name then some loader else s.loader? other :=
  lookup_with s.loaders name loader other

/-- Reading leaves a loader bound to its file. -/
theorem bound_document (l : Loader) (p : Host) :
    (l.document p).2.format = l.format ∧ (l.document p).2.path = l.path := by
  rcases document_cases l p with
    ⟨_, _, hdocument⟩ | ⟨_, hdocument⟩ | ⟨_, _, ⟨_, _, _, hdocument⟩ | ⟨_, _, hdocument⟩
      | ⟨_, _, hdocument⟩⟩
  all_goals
    rw [hdocument]
    exact ⟨rfl, rfl⟩

/-- **A step** leaves a loader bound to its file, unless it makes another one under the same name. -/
theorem bound_step (h : s.loader? name = some loader) (hstep : step.rebuilds name = false) :
    ∃ later, (s.step step).2.loader? name = some later
      ∧ later.format = loader.format ∧ later.path = loader.path := by
  cases step with
  | keepLoader other root =>
    have hne : name ≠ other := fun heq => of_decide_eq_false hstep heq.symm
    rcases s.step_keepLoader other root with hsame | ⟨new, _, hkept⟩
    · rw [hsame]
      exact ⟨loader, h, rfl, rfl⟩
    · rw [hkept, loader?_keep, if_neg hne]
      exact ⟨loader, h, rfl, rfl⟩
  | load other =>
    rcases s.step_load other with hsame | ⟨used, hused, hkept⟩
    · rw [hsame]
      exact ⟨loader, h, rfl, rfl⟩
    · rw [hkept, loader?_keep]
      by_cases hname : name = other
      · -- the loader that was used is this one
        subst hname
        obtain rfl : loader = used := Option.some.inj (h.symm.trans hused)
        rw [if_pos rfl]
        exact ⟨_, rfl, bound_document loader s.context.host⟩
      · rw [if_neg hname]
        exact ⟨loader, h, rfl, rfl⟩
  | _ =>
    refine ⟨loader, ?_, rfl, rfl⟩
    unfold Session.loader?
    rw [loaders_step rfl]
    exact h

/-- **A run** leaves a loader bound to its file. -/
theorem bound_run (h : s.loader? name = some loader)
    (hsteps : ∀ step ∈ steps, step.rebuilds name = false) :
    ∃ later, (s.run steps).2.loader? name = some later
      ∧ later.format = loader.format ∧ later.path = loader.path := by
  induction steps generalizing s loader with
  | nil => exact ⟨loader, h, rfl, rfl⟩
  | cons step rest ih =>
    rw [List.forall_mem_cons] at hsteps
    obtain ⟨next, hnext, hformat, hpath⟩ := bound_step h hsteps.1
    obtain ⟨later, hlater, hformat', hpath'⟩ := ih hnext hsteps.2
    rw [run_cons]
    exact ⟨later, hlater, hformat'.trans hformat, hpath'.trans hpath⟩

/-! ## Their steps -/

/-- **A loader is kept** for the file that is chosen in the root. -/
theorem step_keepLoader_of_chosen {root : Text} {given : Option Text} {format : Format}
    (h : s.context.host.workspaceRoot given = some root)
    (hchosen : Loader.chosen s.context.host root = .ok format) (name : Text) :
    s.step (.keepLoader name given)
      = (pure (.loader format (Loader.pathIn root format)),
          s.keep name { format, path := Loader.pathIn root format }) := by
  simp only [Session.step, Loader.ofRoot, workspaceRoot_eq_some_iff.mp h, hchosen]

/-- No loader is kept if no file can be chosen. -/
theorem step_keepLoader_of_fault {root : Text} {given : Option Text} {fault : ConfigFault}
    (h : s.context.host.workspaceRoot given = some root)
    (hchosen : Loader.chosen s.context.host root = .error fault) (name : Text) :
    s.step (.keepLoader name given) = (Logged.fail (.config fault), s) := by
  simp only [Session.step, Loader.ofRoot, workspaceRoot_eq_some_iff.mp h, hchosen]
  rfl

theorem step_load_of_loader (h : s.loader? name = some loader) :
    (s.step (.load name)).1 = (loader.load s.context.host).1.bind (fun c => pure (.config c)) := by
  simp only [Session.step, h]

/-- Using a loader misses its file exactly when that file is looked for and not there. -/
theorem step_load_eq_missing_iff (h : s.loader? name = some loader) {path : Text} :
    (s.step (.load name)).1.outcome = .error (.config (.missing path)) ↔
      loader.path = path ∧ Loader.find s.context.host loader.path = .ok none := by
  rw [step_load_of_loader h, ← outcome_load_eq_missing_iff]
  constructor
  · intro hmissing
    rcases Logged.bind_eq_error_iff.mp hmissing with hload | ⟨config, _, hpure⟩
    · exact hload
    · exact absurd hpure (by simp)
  · intro hload
    exact Logged.bind_eq_error_iff.mpr (Or.inl hload)

/-! ## Choices -/

/-- **The JSON file takes precedence.** An absolute path that the system can hold names one root, in every
process. Loading from there misses a file exactly when neither is there and the system has looked for
both; where it refuses a path that is looked for, loading fails with that refusal. Where the JSON file is,
processes that are alike but for the TOML file come to the same, be it a configuration or an error, in any
environment and in their own. Where only the TOML file is, and is looked for, loading checks what it holds
and resolves it. A loader that is kept is made for the TOML file if it is there alone, else for the JSON
file, and stays bound to that file whatever steps follow that make no other one under its name: using it
misses the file exactly when that very file is looked for and not there. None is kept where the system
refuses a path. -/
theorem json_takes_precedence {given : Text} (habsolute : given.startsWith "/" = true)
    (hheld : SystemFault.ofText? given = none) :
    ∃ root, (∀ p : Host, p.workspaceRoot (some given) = some root)
      ∧ (∀ (p : Host) (env : Environment),
          ((∃ path, (loadConfig p env (some given)).outcome = .error (.config (.missing path))) ↔
            p.LooksIn root ∧ p.file? (Loader.pathIn given .json) = none
              ∧ p.file? (Loader.pathIn given .toml) = none)
          ∧ ∀ path refusal, p.RefusesIn root path refusal →
              loadConfig p env (some given) = Logged.fail (.config (.refused path refusal)))
      ∧ (∀ p q : Host, p.file? (Loader.pathIn given .json) ≠ none →
          p.AlikeBut q (Loader.pathIn given .toml) →
            (∀ env, loadConfig q env (some given) = loadConfig p env (some given))
              ∧ loadConfig q q.environment (some given) = loadConfig p p.environment (some given))
      ∧ (∀ (p : Host) (env : Environment) (file : File), p.LooksIn root →
          p.file? (Loader.pathIn given .json) = none →
          p.file? (Loader.pathIn given .toml) = some file →
            loadConfig p env (some given)
              = Loader.check (Loader.pathIn root .toml)
                    ((Format.toml.parse file.content).mapError (.unreadable (Loader.pathIn root .toml)))
                  >>= fun config => (config.process env ⟨.located, root⟩).attempt)
      ∧ ∀ (s : Session) (name : Text),
          (∀ path refusal, s.context.host.RefusesIn root path refusal →
            s.step (.keepLoader name (some given)) = (Logged.fail (.config (.refused path refusal)), s))
          ∧ ∀ steps : List Step, s.context.host.LooksIn root →
            (∀ step ∈ steps, step.rebuilds name = false) →
              ∃ format, (format = .toml ↔
                  s.context.host.file? (Loader.pathIn given .json) = none
                    ∧ s.context.host.file? (Loader.pathIn given .toml) ≠ none)
                ∧ (s.step (.keepLoader name (some given))).1
                    = pure (.loader format (Loader.pathIn root format))
                ∧ let last := (s.run (.keepLoader name (some given) :: steps)).2
                  (∃ loader, last.loader? name = some loader
                    ∧ loader.format = format ∧ loader.path = Loader.pathIn root format)
                  ∧ ∀ path, (last.step (.load name)).1.outcome = .error (.config (.missing path)) ↔
                      Loader.pathIn root format = path
                        ∧ last.context.host.refusedPath (Loader.pathIn root format) = none
                        ∧ last.context.host.file? (Loader.pathIn given format) = none := by
  obtain ⟨root, hroot, hnamed, hpaths, hfiles⟩ := exists_root_of_held habsolute hheld
  refine ⟨root, hnamed, ?_, ?_, ?_, ?_⟩
  · intro p env
    refine ⟨?_, ?_⟩
    · rw [loadConfig_eq_missing_iff hroot (hnamed p), find_eq_none_iff hpaths, hfiles, hfiles]
    · intro path refusal hrefuses
      exact loadConfig_of_fault hroot (hnamed p) (chosen_of_refusesIn hpaths hrefuses)
  · intro p q hjson halike
    have hother : p.fileKey (Loader.pathIn given .json) ≠ p.fileKey (Loader.pathIn given .toml) := by
      intro hkey
      exact absurd (Host.eq_of_fileKey_pathIn habsolute hkey) (by decide)
    have hcontent := halike.files _ hother
    rw [← hfiles] at hjson
    rw [← hfiles, ← hfiles] at hcontent
    have hsame : ∀ env, loadConfig q env (some given) = loadConfig p env (some given) := by
      intro env
      exact loadConfig_congr_json hroot hpaths (hnamed p) (hnamed q) (by rw [halike.rest]) hjson hcontent
    refine ⟨hsame, ?_⟩
    rw [hsame, halike.rest]
    rfl
  · intro p env file hlooks hjson htoml
    rw [← hfiles] at hjson htoml
    have hfind := find_json_of_looksIn hpaths hlooks
    have hfind' := find_toml_of_looksIn hpaths hlooks hjson
    rw [hjson] at hfind
    rw [htoml] at hfind'
    exact loadConfig_of_file hroot (hnamed p) (chosen_of_toml hfind hfind') hfind'
  · intro s name
    refine ⟨?_, ?_⟩
    · intro path refusal hrefuses
      exact step_keepLoader_of_fault (hnamed s.context.host) (chosen_of_refusesIn hpaths hrefuses) name
    · intro steps hlooks hsteps
      obtain ⟨format, hchosen, hformat⟩ := exists_chosen_of_looksIn hpaths hlooks
      have hkeep := step_keepLoader_of_chosen (hnamed s.context.host) hchosen name
      rw [hfiles, hfiles] at hformat
      refine ⟨format, hformat, congrArg Prod.fst hkeep, ?_⟩
      intro last
      let made : Loader := { format, path := Loader.pathIn root format }
      have hlast : last = ((s.keep name made).run steps).2 := by
        show (s.run (.keepLoader name (some given) :: steps)).2 = _
        rw [run_cons, hkeep]
      have hkept : (s.keep name made).loader? name = some made := by
        rw [loader?_keep, if_pos rfl]
      -- whatever follows, what is kept under the name is bound to the file that was chosen
      obtain ⟨loader, hloader, hbound, hpath⟩ := bound_run hkept hsteps
      rw [← hlast] at hloader
      refine ⟨⟨loader, hloader, hbound, hpath⟩, ?_⟩
      intro path
      rw [step_load_eq_missing_iff hloader, hpath, find_eq_ok_iff (hpaths format), hfiles]

/-- A TOML file with one library. -/
def tomlFile : File :=
  let source : Text := "[workspace]\nlibrary = [\"lib\"]"
  ⟨source.map (fun c => UInt8.ofNat c.value), 1⟩

/-- A process with a workspace whose JSON file is broken, while its TOML file is not. -/
def halfBrokenHost : Host :=
  { files := [("/ws/.emmyrc.json", ⟨[0x7b], 0⟩), ("/ws/.emmyrc.toml", tomlFile)]
    clock := 2 }

/-- The TOML file does not stand in for the broken one until that is removed; and a loader that was made
before does not turn to it even then. -/
theorem json_takes_precedence_when_broken :
    let given : Text := "/x/../ws/"
    let only := halfBrokenHost.remove (Loader.pathIn given .json)
    given.startsWith "/" = true ∧ SystemFault.ofText? given = none
      ∧ (loadConfig halfBrokenHost halfBrokenHost.environment (some given)).outcome.toOption = none
      ∧ (loadConfig only only.environment (some given)).outcome.toOption
          = some { library := ["/ws/lib"] }
      ∧ (((start halfBrokenHost).run
            [.keepLoader "l" (some given), .remove (Loader.pathIn given .json)]).2.step
              (.load "l")).1.outcome
          = .error (.config (.missing "/ws/.emmyrc.json")) := by
  intro given only
  have habsolute : given.startsWith "/" = true := by decide
  have hheld : SystemFault.ofText? given = none := by decide
  obtain ⟨root, hnamed, _, hprecedes, honly, hbound⟩ := json_takes_precedence habsolute hheld
  obtain rfl : "/ws" = root := Option.some.inj (Eq.trans (by decide +kernel) (hnamed {}))
  refine ⟨habsolute, hheld, ?_, ?_, ?_⟩
  · -- without the TOML file it is the same
    let alone := halfBrokenHost.remove (Loader.pathIn given .toml)
    have hjson : halfBrokenHost.file? (Loader.pathIn given .json) ≠ none := by decide +kernel
    have hsame := (hprecedes halfBrokenHost alone hjson (Host.alikeBut_remove _ _)).2
    rw [← hsame]
    decide +kernel
  · have hlooks : only.LooksIn "/ws" := looksIn_of_refusedPath (fun _ => rfl) "/ws"
    have hjson : only.file? (Loader.pathIn given .json) = none := by decide +kernel
    have htoml : only.file? (Loader.pathIn given .toml) = some tomlFile := by decide +kernel
    rw [honly only only.environment tomlFile hlooks hjson htoml]
    decide +kernel
  · have hlooks : halfBrokenHost.LooksIn "/ws" := looksIn_of_refusedPath (fun _ => rfl) "/ws"
    obtain ⟨format, hformat, _, _, hmissing⟩ := (hbound (start halfBrokenHost) "l").2
      [.remove (Loader.pathIn given .json)] hlooks (by decide)
    obtain rfl : format = .json := by
      cases format with
      | json => rfl
      | toml => exact absurd (hformat.mp rfl).1 (by decide +kernel)
    exact (hmissing "/ws/.emmyrc.json").mpr ⟨by decide, by decide +kernel, by decide +kernel⟩

/-- A process on a system that looks no path up in which a name has more than 255 bytes. -/
def narrowHost : Host where
  refusedPath path :=
    if (path.splitOn "/").any (fun name => 255 < (Utf8.encodeEscaped name).length) then
      some ⟨36, "File name too long"⟩
    else none

/-- In a root with too long a name there is neither file. Still none is missed: looking for the JSON file
is an error already. -/
theorem loadConfig_refuses_long_root :
    let given : Text := CodePoint.scalar '/' :: List.replicate 300 (CodePoint.scalar 'a')
    given.startsWith "/" = true ∧ SystemFault.ofText? given = none
      ∧ narrowHost.file? (Loader.pathIn given .json) = none
      ∧ narrowHost.file? (Loader.pathIn given .toml) = none
      ∧ (loadConfig narrowHost narrowHost.environment (some given)).outcome
          = .error (.config (.refused (Loader.pathIn given .json) ⟨36, "File name too long"⟩))
      ∧ ∀ path, (loadConfig narrowHost narrowHost.environment (some given)).outcome
          ≠ .error (.config (.missing path)) := by
  intro given
  have habsolute : given.startsWith "/" = true := by decide
  have hheld : SystemFault.ofText? given = none := by decide +kernel
  obtain ⟨root, hroot, hnamed, hpaths, _⟩ := exists_root_of_held habsolute hheld
  obtain rfl : given = root := Option.some.inj (Eq.trans (by decide +kernel) (hnamed {}))
  have hrefuses : narrowHost.RefusesIn given (Loader.pathIn given .json) ⟨36, "File name too long"⟩ :=
    ⟨by decide +kernel, Or.inl rfl⟩
  have hload : loadConfig narrowHost narrowHost.environment (some given) = Logged.fail _ :=
    loadConfig_of_fault hroot (hnamed narrowHost) (chosen_of_refusesIn hpaths hrefuses)
  rw [hload]
  refine ⟨habsolute, hheld, rfl, rfl, rfl, ?_⟩
  intro path hmissing
  exact absurd hmissing (by simp [Logged.fail])

end Session

end WorkspacePaths
