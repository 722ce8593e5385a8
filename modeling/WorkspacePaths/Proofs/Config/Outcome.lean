import WorkspacePaths.Proofs.Config.Loading
import WorkspacePaths.Proofs.Config.Processing
import WorkspacePaths.Proofs.Config.Shape

/-!
# `Proofs.Config.Outcome` — how loading ends

Loading has three stages. The file that is chosen is read, which yields a document or a documented
fault, unless the system refuses to look for it. The document is given its shape, which fails for a
value of a wrong kind, as documented, or for a key. The lists of paths are resolved, which does not fail
in a fixed table. So there are two endings that are not documented, one from each of the first two
stages.

## Contents
- `IsDocumented`: a configuration, or a documented reason why there is none.
- `loadConfig_eq_error_iff`: in a fixed table, the document alone decides.
- `loadConfig_outcome`: when loading ends as documented, and how it ends if not;
  `loadConfig_yields_sample` at one workspace, `loadConfig_refuses_key` where it does not.
-/

namespace WorkspacePaths

variable {p : Host} {given root : Text} {fault : Text.EncodingFault}

/-- There is a configuration, or a documented reason why there is none: an error of the
configuration. -/
def IsDocumented (x : Attempt Config) : Prop :=
  (∃ config, x.outcome = .ok config)
    ∨ ∃ fault : ConfigFault, x.outcome = .error (.config fault) ∧ fault.isRefusal = false

instance (x : Attempt Config) : Decidable (IsDocumented x) :=
  match h : x.outcome with
  | .ok config => isTrue (Or.inl ⟨config, h⟩)
  | .error (.config fault) =>
    if hfault : fault.isRefusal = false then isTrue (Or.inr ⟨fault, h, hfault⟩)
    else isFalse (by simpa [IsDocumented, h] using hfault)
  | .error .homeNotFound | .error .homeUndetermined | .error (.encoding _) | .error .embeddedZero
  | .error .valueMissing => isFalse (by simp [IsDocumented, h])

/-- A key without a UTF-8 form is no documented reason. -/
theorem not_isDocumented_of_encoding {x : Attempt Config} (h : x.outcome = .error (.encoding fault)) :
    ¬ IsDocumented x := by
  unfold IsDocumented
  rw [h]
  simp

/-- Nor is a refusal of the system. -/
theorem not_isDocumented_of_refusal {x : Attempt Config} {path : Text} {refusal : Refusal}
    (h : x.outcome = .error (.config (.refused path refusal))) : ¬ IsDocumented x := by
  unfold IsDocumented
  rw [h]
  simp [ConfigFault.isRefusal]

/-! ## Stages -/

/-- Checking fails as reading the file did, or for the shape of the document. -/
theorem outcome_check_eq_error_iff {path : Text} {document : Except ConfigFault Members}
    {e : Failure} :
    (Loader.check path document).outcome = .error e ↔
      (∃ reason, document = .error reason ∧ e = .config reason)
        ∨ ∃ members shape, document = .ok members ∧ Config.ofMembers members = .error shape
            ∧ e = Failure.ofShape shape := by
  cases document with
  | error reason =>
    rw [check_error]
    simp [eq_comm]
  | ok members =>
    rw [check_ok]
    cases hshape : Config.ofMembers members with
    | error shape => simp [Except.mapError, hshape, eq_comm]
    | ok config => simp [Except.mapError, hshape]

theorem outcome_check_eq_encoding_iff {path : Text} {document : Except ConfigFault Members} :
    (Loader.check path document).outcome = .error (.encoding fault) ↔
      ∃ members, document = .ok members ∧ RefusesKey members fault := by
  rw [outcome_check_eq_error_iff]
  constructor
  · rintro (⟨_, _, hreason⟩ | ⟨members, shape, hdocument, hshape, hfault⟩)
    · exact absurd hreason (by simp)
    · cases shape with
      | mismatch m => exact absurd hfault (by simp [Failure.ofShape])
      | key other =>
        obtain rfl : fault = other := Failure.encoding.inj hfault
        exact ⟨members, hdocument, ofMembers_eq_key_iff.mp hshape⟩
  · rintro ⟨members, hdocument, hrefuses⟩
    exact Or.inr ⟨members, .key fault, hdocument, ofMembers_eq_key_iff.mpr hrefuses, rfl⟩

/-- Any reason but a wrong shape is the fault of the reading. -/
theorem outcome_check_eq_config_iff {path : Text} {document : Except ConfigFault Members}
    {reason : ConfigFault} (h : ∀ m, reason ≠ .mismatch m) :
    (Loader.check path document).outcome = .error (.config reason) ↔ document = .error reason := by
  rw [outcome_check_eq_error_iff]
  constructor
  · rintro (⟨other, hdocument, hreason⟩ | ⟨_, shape, _, _, hshape⟩)
    · rw [hdocument, Failure.config.inj hreason]
    · cases shape with
      | mismatch m => exact absurd (Failure.config.inj hshape) (h m)
      | key fault => exact absurd hshape (by simp [Failure.ofShape])
  · intro hdocument
    exact Or.inl ⟨_, hdocument, rfl⟩

/-- Checking a document fails for want of a configuration, or for a key. -/
theorem outcome_check_of_error {path : Text} {document : Except ConfigFault Members} {e : Failure}
    (h : (Loader.check path document).outcome = .error e) :
    (∃ reason, e = .config reason) ∨ ∃ fault, e = .encoding fault := by
  rcases outcome_check_eq_error_iff.mp h with ⟨reason, _, rfl⟩ | ⟨_, shape, _, _, rfl⟩
  · exact Or.inl ⟨reason, rfl⟩
  · cases shape with
    | mismatch m => exact Or.inl ⟨.mismatch m, rfl⟩
    | key fault => exact Or.inr ⟨fault, rfl⟩

/-- Processing a configuration does not fail in a fixed table. -/
theorem exists_of_process (bs : Bindings) (home : Option Text) (root : Root) (config : Config) :
    ∃ resolved, (config.process (.ofBindings bs home) root).attempt.outcome = .ok resolved := by
  rw [process_of_ok (fun entries => bs.resolveAll_ofBindings home .posix root entries) config]
  exact ⟨_, rfl⟩

/-! ## Loading -/

/-- **In a fixed table, the document decides** how loading ends: it fails as checking the document
does, and not otherwise. -/
theorem loadConfig_eq_error_iff (bs : Bindings) (home : Option Text) {e : Failure}
    (h : p.workspaceRoot (some given) = some root) (hroot : IsRootSpelling root) :
    (loadConfig p (.ofBindings bs home) (some given)).outcome = .error e ↔
      (Loader.check (p.configPath root) (p.document root)).outcome = .error e := by
  rw [loadConfig_of_workspaceRoot h hroot, Logged.bind_eq_error_iff]
  -- once a configuration is read, nothing is left that could fail
  refine or_iff_left ?_
  rintro ⟨config, _, hprocess⟩
  obtain ⟨resolved, hresolved⟩ := exists_of_process bs home ⟨.located, root⟩ config
  rw [hresolved] at hprocess
  exact absurd hprocess (by simp)

/-- **How loading ends.** An absolute path names a root in every process. Loading from there in a fixed
table ends with a configuration or a documented reason, unless the system refuses to look for a file, or
the document of that root can be read and has a key without a UTF-8 form that reading comes to before any
value of a wrong kind. Then it ends with the refusal of the file, or of that key. -/
theorem loadConfig_outcome (p : Host) (bs : Bindings) (home : Option Text) (given : Text)
    (habsolute : given.startsWith "/" = true) :
    ∃ root, p.workspaceRoot (some given) = some root
      ∧ (IsDocumented (loadConfig p (.ofBindings bs home) (some given)) ↔
          (∀ path refusal, p.document root ≠ .error (.refused path refusal))
            ∧ ∀ members, p.document root = .ok members → ∀ fault, ¬ RefusesKey members fault)
      ∧ (∀ fault, (loadConfig p (.ofBindings bs home) (some given)).outcome = .error (.encoding fault) ↔
          ∃ members, p.document root = .ok members ∧ RefusesKey members fault)
      ∧ ∀ path refusal,
          (loadConfig p (.ofBindings bs home) (some given)).outcome
              = .error (.config (.refused path refusal)) ↔
            p.document root = .error (.refused path refusal) := by
  obtain ⟨root, hnamed, hroot⟩ := exists_workspaceRoot p habsolute
  have hencoding : ∀ fault,
      (loadConfig p (.ofBindings bs home) (some given)).outcome = .error (.encoding fault) ↔
        ∃ members, p.document root = .ok members ∧ RefusesKey members fault := by
    intro fault
    rw [loadConfig_eq_error_iff bs home hnamed hroot, outcome_check_eq_encoding_iff]
  have hrefused : ∀ path refusal,
      (loadConfig p (.ofBindings bs home) (some given)).outcome
          = .error (.config (.refused path refusal)) ↔
        p.document root = .error (.refused path refusal) := by
    intro path refusal
    rw [loadConfig_eq_error_iff bs home hnamed hroot, outcome_check_eq_config_iff (by simp)]
  refine ⟨root, hnamed, ?_, hencoding, hrefused⟩
  constructor
  · intro hdocumented
    constructor
    · intro path refusal hdocument
      exact not_isDocumented_of_refusal ((hrefused path refusal).mpr hdocument) hdocumented
    · intro members hmembers fault hrefuses
      exact not_isDocumented_of_encoding ((hencoding fault).mpr ⟨members, hmembers, hrefuses⟩)
        hdocumented
  · rintro ⟨hlooked, hno⟩
    rcases houtcome : (loadConfig p (.ofBindings bs home) (some given)).outcome with e | config
    · rcases outcome_check_of_error ((loadConfig_eq_error_iff bs home hnamed hroot).mp houtcome) with
        ⟨reason, rfl⟩ | ⟨fault, rfl⟩
      · refine Or.inr ⟨reason, houtcome, ?_⟩
        cases reason with
        | refused path refusal => exact absurd ((hrefused path refusal).mp houtcome) (hlooked _ _)
        | _ => rfl
      · obtain ⟨members, hmembers, hrefuses⟩ := (hencoding fault).mp houtcome
        exact absurd hrefuses (hno members hmembers fault)
    · exact Or.inl ⟨config, houtcome⟩

/-- A process with a workspace whose configuration is written like this. -/
def configuredHost (source : Text) : Host :=
  { files := [("/ws/.emmyrc.json", ⟨source.map (fun c => UInt8.ofNat c.value), 0⟩)] }

/-- A workspace with one library, and a member that is no setting. -/
def librarySource : Text := "\x7b\"workspace\": \x7b\"library\": [\"lib\"]\x7d, \"runtime\": 1\x7d"

/-- Loading that configuration ends as documented. -/
theorem loadConfig_yields_sample :
    ("/ws" : Text).startsWith "/" = true
      ∧ IsDocumented
          (loadConfig (configuredHost librarySource) (.ofBindings [] none) (some "/ws")) := by
  have habsolute : ("/ws" : Text).startsWith "/" = true := by decide
  obtain ⟨root, hnamed, hdocumented, _⟩ :=
    loadConfig_outcome (configuredHost librarySource) [] none "/ws" habsolute
  obtain rfl : "/ws" = root := Option.some.inj (Eq.trans (by decide +kernel) hnamed)
  have hheld : (configuredHost librarySource).held? "/ws" = some { library := ["lib"] } := by
    decide +kernel
  obtain ⟨members, hmembers, hshape⟩ := exists_document_of_held hheld
  refine ⟨habsolute, hdocumented.mpr ⟨?_, ?_⟩⟩
  · intro path refusal hrefused
    rw [hmembers] at hrefused
    exact absurd hrefused (by simp)
  · intro read hread fault hrefuses
    obtain rfl : members = read := Except.ok.inj (hmembers.symm.trans hread)
    rw [ofMembers_eq_key_iff.mpr hrefuses] at hshape
    exact absurd hshape (by simp)

/-- **Loading does not always end as documented**: a key may be written that has no UTF-8 form. -/
theorem loadConfig_refuses_key :
    ¬ ∀ (p : Host) (bs : Bindings) (home : Option Text) (given : Text),
      given.startsWith "/" = true → IsDocumented (loadConfig p (.ofBindings bs home) (some given)) := by
  intro h
  have hfails : ¬ IsDocumented (loadConfig (configuredHost "\x7b\"\\ud800\": 1\x7d")
      (.ofBindings [] none) (some "/ws")) := by
    decide +kernel
  exact hfails (h _ [] none "/ws" (by decide))

end WorkspacePaths
