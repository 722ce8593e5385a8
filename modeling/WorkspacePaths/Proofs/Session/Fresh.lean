import WorkspacePaths.Proofs.Config.Remembering
import WorkspacePaths.Proofs.Session.Precedence

/-!
# `Proofs.Session.Fresh` — loaders that are kept read what a new one would

Whatever happens in a session, its files stay stamped, and what each loader remembers goes on fitting
them: writing, removing and reading are the steps that could break that, and none of them does. So a
loader that is kept comes to what a new one would come to at that moment, and a file that was refused is
refused again for as long as no step touches it.

## Contents
- **Sessions.** `Session.Sound`; `sound_step`, `sound_run`; `step_load_of_sound`.
- **Files that are left alone.** `Step.touches`, `LeavesFile`; `find_step`, `find_run`.
- `load_is_fresh`: what using a loader comes to; `load_is_fresh_after_rejection` for a file that is good,
  bad, gone and good again.
-/

namespace WorkspacePaths

open Command

variable {p : Host} {path : Text}

/-! ## Sessions -/

namespace Session

variable {s : Session} {step : Step} {steps : List Step} {name : Text} {loader : Loader}

/-- The files of a session are stamped, and the loaders that it keeps fit them. -/
structure Sound (s : Session) : Prop where
  stamped : s.context.host.Stamped
  fits : ∀ name loader, s.loader? name = some loader → loader.Fits s.context.host

theorem sound_start (h : p.Stamped) : (start p).Sound where
  stamped := h
  fits _ _ hloader := absurd hloader (by simp [Session.loader?, start])

theorem Sound.keep (h : s.Sound) (hfits : loader.Fits s.context.host) (name : Text) :
    (s.keep name loader).Sound where
  stamped := h.stamped
  fits := by
    intro other kept hkept
    rw [loader?_keep] at hkept
    split at hkept
    · rw [← Option.some.inj hkept]
      exact hfits
    · exact h.fits other kept hkept

/-- A step that works neither on files nor on loaders is safe. -/
theorem Sound.of_same {s' : Session} (h : s.Sound) (hdisk : s'.context.host.disk = s.context.host.disk)
    (hloaders : s'.loaders = s.loaders) : s'.Sound where
  stamped := h.stamped.of_disk hdisk
  fits name loader hloader :=
    (h.fits name loader ((congrArg (List.lookup name) hloaders).symm.trans hloader)).of_disk hdisk

/-- **A step** keeps the session sound. -/
theorem sound_step (h : s.Sound) (happ : step.Uses KeepsFiles) : (s.step step).2.Sound := by
  cases step with
  | write path content =>
    exact ⟨h.stamped.write, fun name loader hloader => (h.fits name loader hloader).write⟩
  | remove path =>
    exact ⟨h.stamped.remove, fun name loader hloader => (h.fits name loader hloader).remove⟩
  | keepLoader name root =>
    rcases s.step_keepLoader name root with hsame | ⟨loader, hmade, hkept⟩
    · rw [hsame]
      exact h
    · rw [hkept]
      exact h.keep (.of_ofRoot hmade _) name
  | load name =>
    rcases s.step_load name with hsame | ⟨loader, hloader, hkept⟩
    · rw [hsame]
      exact h
    · rw [hkept]
      exact h.keep ((h.fits name loader hloader).document h.stamped) name
  | _ => exact h.of_same (disk_step rfl happ) (loaders_step rfl)

/-- **A run** keeps the session sound. -/
theorem sound_run (h : s.Sound) (happs : ∀ step ∈ steps, step.Uses KeepsFiles) :
    (s.run steps).2.Sound := by
  induction steps generalizing s with
  | nil => exact h
  | cons step rest ih =>
    rw [List.forall_mem_cons] at happs
    rw [run_cons]
    exact ih (sound_step h happs.1) happs.2

/-- In a sound session, using a loader reads its file as it stands. -/
theorem step_load_of_sound (h : s.Sound) (hloader : s.loader? name = some loader) :
    (s.step (.load name)).1
      = (Loader.check loader.path (s.context.host.read loader.format loader.path)).bind
          (fun c => pure (.config c)) := by
  rw [step_load_of_loader hloader, ← document_of_fits (h.fits name loader hloader)]
  rfl

end Session

/-! ## Files that are left alone -/

/-- The step writes or removes the file that a path leads to. -/
def Step.touches (p : Host) (path : Text) : Step → Bool
  | .write other _ | .remove other => p.fileKey path = p.fileKey other
  | _ => false

namespace Session

variable {s : Session} {step : Step} {steps : List Step} {name : Text}

/-- None of the steps, when it is taken, writes or removes the file that a path leads to. -/
def LeavesFile (path : Text) : Session → List Step → Prop
  | _, [] => True
  | s, step :: rest =>
    step.touches s.context.host path = false ∧ LeavesFile path (s.step step).2 rest

theorem find_step (habsolute : path.startsWith [slash] = true)
    (htouches : step.touches s.context.host path = false) (happ : step.Uses KeepsFiles) :
    Loader.find (s.step step).2.context.host path = Loader.find s.context.host path := by
  cases step with
  | write other content =>
    have hne : s.context.host.fileKey path ≠ s.context.host.fileKey other :=
      of_decide_eq_false htouches
    show Loader.find (s.context.host.write other content) path = _
    unfold Loader.find
    rw [Host.file?_write, if_neg hne]
    rfl
  | remove other =>
    have hne : s.context.host.fileKey path ≠ s.context.host.fileKey other :=
      of_decide_eq_false htouches
    show Loader.find (s.context.host.remove other) path = _
    unfold Loader.find
    rw [Host.file?_remove, if_neg hne]
    rfl
  | _ => exact find_of_disk habsolute (disk_step rfl happ)

theorem find_run (habsolute : path.startsWith [slash] = true) (hleaves : LeavesFile path s steps)
    (happs : ∀ step ∈ steps, step.Uses KeepsFiles) :
    Loader.find (s.run steps).2.context.host path = Loader.find s.context.host path := by
  induction steps generalizing s with
  | nil => rfl
  | cons step rest ih =>
    rw [List.forall_mem_cons] at happs
    rw [run_cons, ih hleaves.2 happs.2]
    exact find_step habsolute hleaves.1 happs.1

/-! ## Loading -/

/-- **A loader that is kept never serves what is stale or was refused.** After any steps, whichever of
them fail, using it comes to what a new loader of its format and path comes to with the files as they
stand: there is a configuration exactly when the file is there, its content is a document and the document
has the shape of a configuration, and then it is this one. As long as no step writes or removes the file
at its absolute path, or makes another loader under the name, using it comes to the same again and
again. -/
theorem load_is_fresh {p : Host} (hp : p.Stamped) {steps : List Step}
    (happs : ∀ step ∈ steps, step.Uses KeepsFiles) :
    let last := ((start p).run steps).2
    ∀ name loader, last.loader? name = some loader →
      (last.step (.load name)).1
          = (Loader.load { format := loader.format, path := loader.path } last.context.host).1.bind
              (fun c => pure (.config c))
      ∧ (∀ config, (last.step (.load name)).1.outcome = .ok (.config config) ↔
          ∃ file members, Loader.find last.context.host loader.path = .ok (some file)
            ∧ loader.format.parse file.content = .ok members
            ∧ Config.ofMembers members = .ok config)
      ∧ (loader.path.startsWith "/" = true → ∀ more, (∀ step ∈ more, step.Uses KeepsFiles) →
          (∀ step ∈ more, step.rebuilds name = false) → LeavesFile loader.path last more →
            ((last.run more).2.step (.load name)).1 = (last.step (.load name)).1) := by
  intro last name loader hloader
  have hsound : last.Sound := sound_run (sound_start hp) happs
  have hload := step_load_of_sound hsound hloader
  refine ⟨?_, ?_, ?_⟩
  · rw [hload, load_of_new]
  · intro config
    rw [hload]
    constructor
    · intro hok
      obtain ⟨found, hcheck, hfound⟩ := Logged.bind_eq_ok_iff.mp hok
      obtain rfl : found = config := Result.config.inj (Except.ok.inj hfound)
      obtain ⟨members, hread, hconfig⟩ := outcome_check_eq_ok_iff.mp hcheck
      obtain ⟨file, hfile, hparse⟩ := read_eq_ok_iff.mp hread
      exact ⟨file, members, hfile, hparse, hconfig⟩
    · rintro ⟨file, members, hfile, hparse, hconfig⟩
      have hread : last.context.host.read loader.format loader.path = .ok members :=
        read_eq_ok_iff.mpr ⟨file, hfile, hparse⟩
      exact Logged.bind_eq_ok_iff.mpr
        ⟨config, outcome_check_eq_ok_iff.mpr ⟨members, hread, hconfig⟩, rfl⟩
  · intro habsolute more happs' hbuilds hleaves
    -- the loader may have read in between, but its file is the same and holds what it held
    obtain ⟨later, hlater, hformat, hpath⟩ := bound_run hloader hbuilds
    have hread : (last.run more).2.context.host.read loader.format loader.path
        = last.context.host.read loader.format loader.path := by
      unfold Host.read
      rw [find_run habsolute hleaves happs']
    rw [step_load_of_sound (sound_run hsound happs') hlater, hformat, hpath, hread, hload]

/-- A run in which a file with an empty object is read and then overwritten by one with an array. -/
def spoiled : List Step :=
  [.write "/ws/.emmyrc.json" [0x7b, 0x7d], .keepLoader "l" (some "/ws"), .load "l",
    .write "/ws/.emmyrc.json" [0x5b, 0x5d], .load "l"]

/-- The same run, after which the file is removed and written as it was at first. -/
def mended : List Step :=
  spoiled ++ [.remove "/ws/.emmyrc.json", .load "l", .write "/ws/.emmyrc.json" [0x7b, 0x7d]]

/-- A loader is found with its file. -/
theorem exists_loader_of_map {s : Session} {format : Format}
    (h : (s.loader? name).map (fun l => (l.format, l.path)) = some (format, path)) :
    ∃ loader, s.loader? name = some loader ∧ loader.format = format ∧ loader.path = path := by
  obtain ⟨loader, hloader, hbound⟩ := Option.map_eq_some_iff.mp h
  obtain ⟨hformat, hpath⟩ := Prod.mk.inj hbound
  exact ⟨loader, hloader, hformat, hpath⟩

/-- A file that is refused stays refused, though it was good before, until it is written anew. -/
theorem load_is_fresh_after_rejection :
    let bad := ((start {}).run spoiled).2
    let good := ((start {}).run mended).2
    ({} : Host).Stamped ∧ (∀ step ∈ mended, step.Uses KeepsFiles)
      ∧ (∀ config, (bad.step (.load "l")).1.outcome ≠ .ok (.config config))
      ∧ ((bad.run [.write "/ws/x" [], .load "l", .command commands none]).2.step (.load "l")).1
          = (bad.step (.load "l")).1
      ∧ (good.step (.load "l")).1.outcome = .ok (.config {}) := by
  intro bad good
  have hstamped : ({} : Host).Stamped := .of_no_files rfl
  have happs : ∀ step ∈ mended, step.Uses KeepsFiles := by simp [mended, spoiled, Step.Uses]
  have hspoiled : ∀ step ∈ spoiled, step.Uses KeepsFiles :=
    fun step hstep => happs step (List.mem_append_left _ hstep)
  obtain ⟨loader, hloader, hformat, hpath⟩ :
      ∃ loader, bad.loader? "l" = some loader ∧ loader.format = .json
        ∧ loader.path = "/ws/.emmyrc.json" := exists_loader_of_map (by decide +kernel)
  obtain ⟨_, hok, hagain⟩ := load_is_fresh hstamped hspoiled "l" loader hloader
  refine ⟨hstamped, happs, ?_, ?_, ?_⟩
  · intro config hconfig
    obtain ⟨file, members, hfile, hparse, _⟩ := (hok config).mp hconfig
    have hnow : Loader.find bad.context.host "/ws/.emmyrc.json" = .ok (some ⟨[0x5b, 0x5d], 1⟩) :=
      (find_eq_ok_iff (by decide)).mpr ⟨by decide +kernel, by decide +kernel⟩
    have hrefused : (Format.json.parse [0x5b, 0x5d]).toOption.isNone = true := by decide +kernel
    rw [hpath] at hfile
    obtain rfl : ⟨[0x5b, 0x5d], 1⟩ = file := Option.some.inj (Except.ok.inj (hnow.symm.trans hfile))
    rw [hformat] at hparse
    rw [hparse] at hrefused
    exact absurd hrefused (by simp [Except.toOption])
  · refine hagain (by rw [hpath]; rfl) _ (by simp [Step.Uses, keepsFiles_commands]) (by decide) ?_
    have hother : Step.touches bad.context.host loader.path (.write "/ws/x" []) = false := by
      rw [hpath]
      decide +kernel
    exact ⟨hother, rfl, rfl, trivial⟩
  · obtain ⟨mended, hmended, hformat, hpath⟩ :
        ∃ loader, good.loader? "l" = some loader ∧ loader.format = .json
          ∧ loader.path = "/ws/.emmyrc.json" := exists_loader_of_map (by decide +kernel)
    refine ((load_is_fresh hstamped happs "l" mended hmended).2.1 _).mpr ?_
    have hnow : Loader.find good.context.host "/ws/.emmyrc.json" = .ok (some ⟨[0x7b, 0x7d], 2⟩) :=
      (find_eq_ok_iff (by decide)).mpr ⟨by decide +kernel, by decide +kernel⟩
    rw [hpath, hformat]
    exact ⟨_, [], hnow, rfl, rfl⟩

end Session

end WorkspacePaths
