import WorkspacePaths.Proofs.Config.Outcome
import WorkspacePaths.Proofs.Host.Files

/-!
# `Proofs.Config.Reading` — which file a configuration comes from

A loader remembers the last document that it read. A new one remembers nothing, so what it comes to is
settled by the file as it stands: the system does not look for it, there is none, its content is no
document, or it is one. Loading a configuration makes a new loader and uses it once, in the same process.
Hence it is settled by the one file that is chosen, and the TOML file, which is looked for only if the
JSON file is not there, has no say where the JSON file is.

## Contents
- **Files as they stand.** `Host.read`; `document_cases`, what a loader comes to; `document_of_new` and
  `load_of_new` for new loaders; `read_eq_ok_iff` and `outcome_check_eq_ok_iff`, when there is a
  configuration.
- **Missing files.** `read_eq_error_iff`; `outcome_load_eq_missing_iff` for any loader.
- **Choosing.** `chosen_of_toml`, `chosen_of_none` and, for files that are not looked for,
  `chosen_of_refused` and `chosen_of_refused_toml`; `RefusesIn` and `LooksIn`, with
  `chosen_of_refusesIn` and `exists_chosen_of_looksIn`.
- **Documents of workspaces.** `document_of_chosen`, `document_of_fault`; `document_eq_error_iff`, why none
  is read.
- **Loading.** `loadConfig_eq_config_iff`, `loadConfig_eq_missing_iff`; `loadConfig_of_fault`,
  `loadConfig_of_file` and `loadConfig_congr_json`; `AlikeBut`, processes that are alike but for one file.
-/

namespace WorkspacePaths

variable {p q : Host} {env : Environment} {given root path other : Text} {format : Format}
  {fault : ConfigFault}

/-! ## Files as they stand -/

/-- The document in the file at a path, as it stands there. -/
def Host.read (p : Host) (format : Format) (path : Text) : Except ConfigFault Members :=
  match Loader.find p path with
  | .error fault => .error fault
  | .ok none => .error (.missing path)
  | .ok (some file) => (format.parse file.content).mapError (.unreadable path)

/-- **What a loader comes to**: the system does not look for its file; or the file is missing; or it was
read before with the stamp that it has, and what was read is remembered; or it is read, and remembered if
it is a document. -/
theorem document_cases (l : Loader) (p : Host) :
    (∃ fault, Loader.find p l.path = .error fault ∧ l.document p = (.error fault, l))
      ∨ (Loader.find p l.path = .ok none ∧ l.document p = (.error (.missing l.path), l))
      ∨ ∃ file, Loader.find p l.path = .ok (some file)
        ∧ ((∃ reading, l.last = some reading ∧ reading.stamp = file.stamp
              ∧ l.document p = (.ok reading.document, l))
          ∨ (∃ document, l.format.parse file.content = .ok document
              ∧ l.document p = (.ok document, { l with last := some ⟨file.stamp, document⟩ }))
          ∨ ∃ fault, l.format.parse file.content = .error fault
              ∧ l.document p = (.error (.unreadable l.path fault), l)) := by
  unfold Loader.document
  cases hfind : Loader.find p l.path with
  | error fault => exact Or.inl ⟨fault, rfl, rfl⟩
  | ok found =>
    cases found with
    | none => exact Or.inr (Or.inl ⟨rfl, rfl⟩)
    | some file =>
      refine Or.inr (Or.inr ⟨file, rfl, ?_⟩)
      simp only
      cases hlast : l.last.filter (fun r => r.stamp = file.stamp) with
      | some reading =>
        obtain ⟨hreading, hstamp⟩ := Option.filter_eq_some_iff.mp hlast
        exact Or.inl ⟨reading, hreading, of_decide_eq_true hstamp, rfl⟩
      | none =>
        cases hparse : l.format.parse file.content with
        | ok document => exact Or.inr (Or.inl ⟨document, rfl, rfl⟩)
        | error fault => exact Or.inr (Or.inr ⟨fault, rfl, rfl⟩)

/-- A new loader reads the file as it stands. -/
theorem document_of_new (p : Host) (format : Format) (path : Text) :
    (Loader.document { format, path } p).1 = p.read format path := by
  unfold Host.read
  rcases document_cases { format, path } p with
    ⟨fault, hfind, hdocument⟩ | ⟨hfind, hdocument⟩ | ⟨file, hfind, ⟨_, hnone, _⟩
      | ⟨members, hparse, hdocument⟩ | ⟨fault, hparse, hdocument⟩⟩
  · simp only [hfind, hdocument]
  · simp only [hfind, hdocument]
  · exact absurd hnone (by simp)
  · simp only [hfind, hparse, hdocument, Except.mapError]
  · simp only [hfind, hparse, hdocument, Except.mapError]

theorem load_of_new (p : Host) (format : Format) (path : Text) :
    (Loader.load { format, path } p).1 = Loader.check path (p.read format path) :=
  congrArg (Loader.check path) (document_of_new p format path)

theorem read_eq_ok_iff {members : Members} :
    p.read format path = .ok members ↔
      ∃ file, Loader.find p path = .ok (some file) ∧ format.parse file.content = .ok members := by
  unfold Host.read
  cases Loader.find p path with
  | error fault => simp
  | ok found =>
    cases found with
    | none => simp
    | some file =>
      cases hparse : format.parse file.content with
      | error fault => simp [hparse, Except.mapError]
      | ok read => simp [hparse, Except.mapError]

theorem outcome_check_eq_ok_iff {document : Except ConfigFault Members} {config : Config} :
    (Loader.check path document).outcome = .ok config ↔
      ∃ members, document = .ok members ∧ Config.ofMembers members = .ok config := by
  cases document with
  | error fault =>
    rw [check_error]
    simp
  | ok members =>
    rw [check_ok]
    cases hconfig : Config.ofMembers members with
    | error fault => simp [hconfig, Except.mapError]
    | ok found => simp [hconfig, Except.mapError]

/-! ## Missing files -/

/-- A file is not missed where it is not looked for. -/
theorem find_ne_missing : Loader.find p path ≠ .error (.missing other) := by
  intro h
  obtain ⟨_, refusal, _, hfault⟩ := find_eq_error_iff.mp h
  exact absurd hfault (by simp)

/-- Apart from what is wrong with its content, a file that is not read is not looked for, or not
there. -/
theorem read_eq_error_iff (h : ∀ path content, fault ≠ .unreadable path content) :
    p.read format path = .error fault ↔
      Loader.find p path = .error fault ∨ Loader.find p path = .ok none ∧ fault = .missing path := by
  unfold Host.read
  cases hfind : Loader.find p path with
  | error other => simp
  | ok found =>
    cases found with
    | none => simp [eq_comm]
    | some file =>
      cases hparse : format.parse file.content with
      | error content => simp [hparse, Except.mapError, (h path content).symm]
      | ok members => simp [hparse, Except.mapError]

/-- **A loader misses its own file**, and no other one, whatever it remembers. -/
theorem outcome_load_eq_missing_iff (l : Loader) (p : Host) :
    (l.load p).1.outcome = .error (.config (.missing other)) ↔
      l.path = other ∧ Loader.find p l.path = .ok none := by
  show (Loader.check l.path (l.document p).1).outcome = _ ↔ _
  rw [outcome_check_eq_config_iff (by simp)]
  rcases document_cases l p with
    ⟨fault, hfind, hdocument⟩ | ⟨hfind, hdocument⟩ | ⟨file, hfind, ⟨reading, _, _, hdocument⟩
      | ⟨members, _, hdocument⟩ | ⟨fault, _, hdocument⟩⟩
  · have hfault : fault ≠ .missing other := fun heq => find_ne_missing (heq ▸ hfind)
    simp [hfind, hdocument, hfault]
  · simp [hfind, hdocument]
  · simp [hfind, hdocument]
  · simp [hfind, hdocument]
  · simp [hfind, hdocument]

/-! ## Choosing -/

theorem chosen_of_toml {file : File} (hjson : Loader.find p (Loader.pathIn root .json) = .ok none)
    (htoml : Loader.find p (Loader.pathIn root .toml) = .ok (some file)) :
    Loader.chosen p root = .ok .toml := by
  unfold Loader.chosen Loader.isThere
  rw [hjson, htoml]
  rfl

theorem chosen_of_none (hjson : Loader.find p (Loader.pathIn root .json) = .ok none)
    (htoml : Loader.find p (Loader.pathIn root .toml) = .ok none) :
    Loader.chosen p root = .ok .json := by
  unfold Loader.chosen Loader.isThere
  rw [hjson, htoml]
  rfl

theorem chosen_of_refused (h : Loader.find p (Loader.pathIn root .json) = .error fault) :
    Loader.chosen p root = .error fault := by
  unfold Loader.chosen Loader.isThere
  rw [h]
  rfl

theorem chosen_of_refused_toml (hjson : Loader.find p (Loader.pathIn root .json) = .ok none)
    (htoml : Loader.find p (Loader.pathIn root .toml) = .error fault) :
    Loader.chosen p root = .error fault := by
  unfold Loader.chosen Loader.isThere
  rw [hjson, htoml]
  rfl

/-- The system refuses the path of a configuration file that is looked for in a root: that of the JSON
file, or that of the TOML file if there is no JSON file. -/
def Host.RefusesIn (p : Host) (root path : Text) (refusal : Refusal) : Prop :=
  p.refusedPath path = some refusal
    ∧ (path = Loader.pathIn root .json
      ∨ path = Loader.pathIn root .toml ∧ p.refusedPath (Loader.pathIn root .json) = none
          ∧ p.file? (Loader.pathIn root .json) = none)

/-- The system looks for all files that it is asked for in a root. -/
def Host.LooksIn (p : Host) (root : Text) : Prop := ∀ path refusal, ¬ p.RefusesIn root path refusal

/-- A system that refuses no path looks for every file. -/
theorem looksIn_of_refusedPath (h : ∀ path, p.refusedPath path = none) (root : Text) : p.LooksIn root := by
  rintro path refusal ⟨hrefused, _⟩
  exact absurd ((h path).symm.trans hrefused) (by simp)

section Held

variable (hheld : ∀ format, SystemFault.ofText? (Loader.pathIn root format) = none)

include hheld

theorem find_json_of_looksIn (h : p.LooksIn root) :
    Loader.find p (Loader.pathIn root .json) = .ok (p.file? (Loader.pathIn root .json)) := by
  refine (find_eq_ok_iff (hheld .json)).mpr ⟨?_, rfl⟩
  cases hrefused : p.refusedPath (Loader.pathIn root .json) with
  | none => rfl
  | some refusal => exact absurd ⟨hrefused, Or.inl rfl⟩ (h _ refusal)

theorem find_toml_of_looksIn (h : p.LooksIn root) (hjson : p.file? (Loader.pathIn root .json) = none) :
    Loader.find p (Loader.pathIn root .toml) = .ok (p.file? (Loader.pathIn root .toml)) := by
  refine (find_eq_ok_iff (hheld .toml)).mpr ⟨?_, rfl⟩
  have hlooked := ((find_eq_ok_iff (hheld .json)).mp (find_json_of_looksIn hheld h)).1
  cases hrefused : p.refusedPath (Loader.pathIn root .toml) with
  | none => rfl
  | some refusal => exact absurd ⟨hrefused, Or.inr ⟨rfl, hlooked, hjson⟩⟩ (h _ refusal)

/-- Where neither file is found, the system has looked for both. -/
theorem find_eq_none_iff :
    (Loader.find p (Loader.pathIn root .json) = .ok none
        ∧ Loader.find p (Loader.pathIn root .toml) = .ok none) ↔
      p.LooksIn root ∧ p.file? (Loader.pathIn root .json) = none
        ∧ p.file? (Loader.pathIn root .toml) = none := by
  constructor
  · rintro ⟨hjson, htoml⟩
    obtain ⟨hlooked, hnone⟩ := (find_eq_ok_iff (hheld .json)).mp hjson
    obtain ⟨hlooked', hnone'⟩ := (find_eq_ok_iff (hheld .toml)).mp htoml
    refine ⟨?_, hnone, hnone'⟩
    rintro path refusal ⟨hrefused, rfl | ⟨rfl, _, _⟩⟩
    · exact absurd (hlooked.symm.trans hrefused) (by simp)
    · exact absurd (hlooked'.symm.trans hrefused) (by simp)
  · rintro ⟨hlooks, hnone, hnone'⟩
    rw [find_json_of_looksIn hheld hlooks, find_toml_of_looksIn hheld hlooks hnone, hnone, hnone']
    exact ⟨rfl, rfl⟩

/-- **Nothing is chosen where the system refuses a path** that is looked for. -/
theorem chosen_of_refusesIn {refusal : Refusal} (h : p.RefusesIn root path refusal) :
    Loader.chosen p root = .error (.refused path refusal) := by
  obtain ⟨hrefused, rfl | ⟨rfl, hlooked, hnone⟩⟩ := h
  · exact chosen_of_refused (find_eq_error_iff.mpr ⟨hheld .json, refusal, hrefused, rfl⟩)
  · exact chosen_of_refused_toml ((find_eq_ok_iff (hheld .json)).mpr ⟨hlooked, hnone⟩)
      (find_eq_error_iff.mpr ⟨hheld .toml, refusal, hrefused, rfl⟩)

/-- **Elsewhere a file is chosen**: the TOML file exactly if it is there alone. -/
theorem exists_chosen_of_looksIn (h : p.LooksIn root) :
    ∃ format, Loader.chosen p root = .ok format
      ∧ (format = .toml ↔
        p.file? (Loader.pathIn root .json) = none ∧ p.file? (Loader.pathIn root .toml) ≠ none) := by
  have hjson := find_json_of_looksIn hheld h
  cases hfile : p.file? (Loader.pathIn root .json) with
  | some file =>
    rw [hfile] at hjson
    exact ⟨.json, chosen_of_json hjson, by simp⟩
  | none =>
    have htoml := find_toml_of_looksIn hheld h hfile
    rw [hfile] at hjson
    cases hfile' : p.file? (Loader.pathIn root .toml) with
    | some file =>
      rw [hfile'] at htoml
      exact ⟨.toml, chosen_of_toml hjson htoml, by simp⟩
    | none =>
      rw [hfile'] at htoml
      exact ⟨.json, chosen_of_none hjson htoml, by simp⟩

end Held

/-! ## Documents of workspaces -/

/-- What is read in a workspace is the file that is chosen. -/
theorem document_of_chosen (h : Loader.chosen p root = .ok format) :
    p.document root = p.read format (Loader.pathIn root format)
      ∧ p.configPath root = Loader.pathIn root format := by
  unfold Host.document Host.configPath
  rw [h]
  exact ⟨document_of_new p format _, rfl⟩

/-- Where none is chosen, none is read. -/
theorem document_of_fault (h : Loader.chosen p root = .error fault) :
    p.document root = .error fault ∧ p.configPath root = Loader.pathIn root .json := by
  unfold Host.document Host.configPath
  rw [h]
  exact ⟨rfl, rfl⟩

/-- **Why no document is read** in a workspace, if it is not for the content of a file: the system does
not look for the JSON file; or that is not there, and the system does not look for the TOML file, or that
is not there either. -/
theorem document_eq_error_iff (h : ∀ path content, fault ≠ .unreadable path content) :
    p.document root = .error fault ↔
      Loader.find p (Loader.pathIn root .json) = .error fault
        ∨ Loader.find p (Loader.pathIn root .json) = .ok none
          ∧ (Loader.find p (Loader.pathIn root .toml) = .error fault
            ∨ Loader.find p (Loader.pathIn root .toml) = .ok none
              ∧ fault = .missing (Loader.pathIn root .json)) := by
  cases hjson : Loader.find p (Loader.pathIn root .json) with
  | error refused => simp [(document_of_fault (chosen_of_refused hjson)).1]
  | ok found =>
    cases found with
    | some file =>
      rw [(document_of_chosen (chosen_of_json hjson)).1, read_eq_error_iff h]
      simp [hjson]
    | none =>
      cases htoml : Loader.find p (Loader.pathIn root .toml) with
      | error refused => simp [(document_of_fault (chosen_of_refused_toml hjson htoml)).1]
      | ok found =>
        cases found with
        | some file =>
          rw [(document_of_chosen (chosen_of_toml hjson htoml)).1, read_eq_error_iff h]
          simp [htoml]
        | none =>
          rw [(document_of_chosen (chosen_of_none hjson htoml)).1, read_eq_error_iff h]
          simp [hjson]

/-! ## Loading -/

/-- Processing does not fail for want of a configuration. -/
theorem attempt_ne_config {α : Type} (r : Resolution α) (fault : ConfigFault) :
    r.attempt.outcome ≠ .error (.config fault) := by
  unfold Resolution.attempt Logged.mapFault
  cases r.outcome with
  | error e => simp
  | ok a => simp

/-- **Loading fails as reading does**, if it does not fail for the shape of the document. -/
theorem loadConfig_eq_config_iff (hroot : IsRootSpelling root)
    (hnamed : p.workspaceRoot (some given) = some root) (h : ∀ m, fault ≠ .mismatch m) :
    (loadConfig p env (some given)).outcome = .error (.config fault) ↔
      p.document root = .error fault := by
  rw [loadConfig_of_workspaceRoot hnamed hroot, ← outcome_check_eq_config_iff h,
    Logged.bind_eq_error_iff]
  refine or_iff_left ?_
  rintro ⟨config, _, hprocess⟩
  exact attempt_ne_config _ _ hprocess

/-- **Loading misses a file** exactly when neither is found. -/
theorem loadConfig_eq_missing_iff (hroot : IsRootSpelling root)
    (hnamed : p.workspaceRoot (some given) = some root) :
    (∃ path, (loadConfig p env (some given)).outcome = .error (.config (.missing path))) ↔
      Loader.find p (Loader.pathIn root .json) = .ok none
        ∧ Loader.find p (Loader.pathIn root .toml) = .ok none := by
  have hmissing : ∀ path, (loadConfig p env (some given)).outcome = .error (.config (.missing path)) ↔
      (Loader.find p (Loader.pathIn root .json) = .ok none
        ∧ Loader.find p (Loader.pathIn root .toml) = .ok none) ∧ path = Loader.pathIn root .json := by
    intro path
    rw [loadConfig_eq_config_iff hroot hnamed (by simp), document_eq_error_iff (by simp)]
    simp [find_ne_missing, and_assoc]
  simp only [hmissing]
  exact ⟨fun ⟨_, hnone, _⟩ => hnone, fun hnone => ⟨_, hnone, rfl⟩⟩

/-- **Loading where the system does not look for a file** fails, and logs nothing. -/
theorem loadConfig_of_fault (hroot : IsRootSpelling root)
    (hnamed : p.workspaceRoot (some given) = some root) (h : Loader.chosen p root = .error fault) :
    loadConfig p env (some given) = Logged.fail (.config fault) := by
  rw [loadConfig_of_workspaceRoot hnamed hroot, (document_of_fault h).1]
  rfl

/-- **Loading from the file that is chosen** checks the document in it and resolves the configuration
that this holds. -/
theorem loadConfig_of_file {file : File} (hroot : IsRootSpelling root)
    (hnamed : p.workspaceRoot (some given) = some root) (hchosen : Loader.chosen p root = .ok format)
    (hfile : Loader.find p (Loader.pathIn root format) = .ok (some file)) :
    loadConfig p env (some given)
      = Loader.check (Loader.pathIn root format)
            ((format.parse file.content).mapError (.unreadable (Loader.pathIn root format)))
          >>= fun config => (config.process env ⟨.located, root⟩).attempt := by
  obtain ⟨hdocument, hpath⟩ := document_of_chosen hchosen
  rw [loadConfig_of_workspaceRoot hnamed hroot, hdocument, hpath]
  unfold Host.read
  rw [hfile]

/-- **Where the JSON file is there, it settles what loading comes to**: processes in which it holds the
same, and that refuse the same paths, come to the same. -/
theorem loadConfig_congr_json (hroot : IsRootSpelling root)
    (hheld : ∀ format, SystemFault.ofText? (Loader.pathIn root format) = none)
    (hp : p.workspaceRoot (some given) = some root) (hq : q.workspaceRoot (some given) = some root)
    (hrefused : q.refusedPath = p.refusedPath) (hthere : p.file? (Loader.pathIn root .json) ≠ none)
    (hcontent : (q.file? (Loader.pathIn root .json)).map File.content
      = (p.file? (Loader.pathIn root .json)).map File.content) :
    loadConfig q env (some given) = loadConfig p env (some given) := by
  obtain ⟨file, hfile⟩ := Option.ne_none_iff_exists'.mp hthere
  rw [hfile] at hcontent
  obtain ⟨file', hfile', hsame⟩ := Option.map_eq_some_iff.mp hcontent
  cases hlooked : p.refusedPath (Loader.pathIn root .json) with
  | some refusal =>
    -- neither process looks for the file
    have hchosen := chosen_of_refusesIn hheld ⟨hlooked, Or.inl rfl⟩
    have hchosen' := chosen_of_refusesIn (p := q) hheld ⟨hrefused ▸ hlooked, Or.inl rfl⟩
    rw [loadConfig_of_fault hroot hp hchosen, loadConfig_of_fault hroot hq hchosen']
  | none =>
    have hfind := (find_eq_ok_iff (hheld .json)).mpr ⟨hlooked, hfile⟩
    have hfind' := (find_eq_ok_iff (p := q) (hheld .json)).mpr ⟨hrefused ▸ hlooked, hfile'⟩
    rw [loadConfig_of_file hroot hp (chosen_of_json hfind) hfind,
      loadConfig_of_file hroot hq (chosen_of_json hfind') hfind', hsame]

/-- Two processes that are alike but for the file at a path, which may be there or not and hold
anything. -/
structure Host.AlikeBut (p q : Host) (path : Text) : Prop where
  rest : q = { p with files := q.files, clock := q.clock }
  files : ∀ other, p.fileKey other ≠ p.fileKey path →
    (q.file? other).map File.content = (p.file? other).map File.content

theorem Host.alikeBut_remove (p : Host) (path : Text) : p.AlikeBut (p.remove path) path where
  rest := rfl
  files other hother := by rw [Host.file?_remove, if_neg hother]

end WorkspacePaths
