import WorkspacePaths.Config.Loader
import WorkspacePaths.Proofs.Host.Roots
import WorkspacePaths.Proofs.Logged

/-!
# `Proofs.Config.Loading` — the configuration that a workspace holds

A workspace with a JSON file is configured by that file, whatever else there is. Loading reports it
and resolves the path lists of what the file holds; nothing can go wrong any more but a name that the
process cannot look up.

## Contents
- `Host.held?`: the configuration in the JSON file of a workspace, as it is written;
  `Host.configPath` and `Host.document`: the path and the document of whichever file is chosen.
- `loadConfig_of_workspaceRoot`: what loading comes to; `chosen_of_json`, `chosen_of_held` and
  `loadConfig_of_held` with a JSON file.
- `library_of_process`: the libraries of a configuration whose paths are resolved.
-/

namespace WorkspacePaths

/-- The configuration in the JSON file of a workspace, as it is written. -/
def Host.held? (p : Host) (root : Text) : Option Config := do
  let file ← (Loader.find p (Loader.pathIn root .json)).toOption.join
  let members ← (Format.json.parse file.content).toOption
  (Config.ofMembers members).toOption

/-- The path of the configuration file that is chosen in a workspace; of the JSON file if the system
lets none be chosen. -/
def Host.configPath (p : Host) (root : Text) : Text :=
  Loader.pathIn root ((Loader.chosen p root).toOption.getD .json)

/-- The document in the configuration file of a workspace. -/
def Host.document (p : Host) (root : Text) : Except ConfigFault Members := do
  let format ← Loader.chosen p root
  (Loader.document { format, path := Loader.pathIn root format } p).1

variable {p : Host} {env : Environment} {root : Text} {config resolved : Config}

theorem held?_eq_some_iff :
    p.held? root = some config ↔
      ∃ file members, Loader.find p (Loader.pathIn root .json) = .ok (some file)
        ∧ Format.json.parse file.content = .ok members ∧ Config.ofMembers members = .ok config := by
  unfold Host.held?
  simp only [Option.bind_eq_bind, Option.bind_eq_some_iff, Option.join_eq_some_iff,
    toOption_eq_some_iff]
  constructor
  · rintro ⟨file, hfile, members, hmembers, hconfig⟩
    exact ⟨file, members, hfile, hmembers, hconfig⟩
  · rintro ⟨file, members, hfile, hmembers, hconfig⟩
    exact ⟨file, hfile, members, hmembers, hconfig⟩

theorem check_ok (path : Text) (members : Members) :
    Loader.check path (.ok members)
      = ⟨(Config.ofMembers members).mapError Failure.ofShape, [⟨.debug, Loader.loadedMessage path⟩]⟩ :=
  rfl

theorem check_error (path : Text) (fault : ConfigFault) :
    Loader.check path (.error fault) = ⟨.error (.config fault), []⟩ := rfl

/-- **Loading** checks the document of the root that is named, and resolves the configuration it holds.
The root is normalised once more when the file is chosen, which leaves it alone. -/
theorem loadConfig_of_workspaceRoot {given : Option Text} (h : p.workspaceRoot given = some root)
    (hroot : IsRootSpelling root) :
    loadConfig p env given
      = Loader.check (p.configPath root) (p.document root)
          >>= fun config => (config.process env ⟨.located, root⟩).attempt := by
  have hself := workspaceRoot_eq_some_iff.mp (workspaceRoot_of_isRootSpelling hroot p)
  unfold loadConfig Loader.ofRoot Host.configPath Host.document
  simp only [workspaceRoot_eq_some_iff.mp h, hself]
  -- a file that cannot be chosen is a fault of the document
  cases Loader.chosen p root with
  | error fault => rfl
  | ok format => rw [Logged.lift_ok_bind]; rfl

/-- A JSON file that is found is the one that is chosen. -/
theorem chosen_of_json {file : File} (h : Loader.find p (Loader.pathIn root .json) = .ok (some file)) :
    Loader.chosen p root = .ok .json := by
  unfold Loader.chosen Loader.isThere
  rw [h]
  rfl

theorem chosen_of_held (h : p.held? root = some config) : Loader.chosen p root = .ok .json := by
  obtain ⟨file, _, hfile, _, _⟩ := held?_eq_some_iff.mp h
  exact chosen_of_json hfile

theorem exists_document_of_held (h : p.held? root = some config) :
    ∃ members, p.document root = .ok members ∧ Config.ofMembers members = .ok config := by
  obtain ⟨file, members, hfile, hparse, hconfig⟩ := held?_eq_some_iff.mp h
  refine ⟨members, ?_, hconfig⟩
  unfold Host.document
  rw [chosen_of_held h]
  show (Loader.document { format := .json, path := Loader.pathIn root .json } p).1 = .ok members
  unfold Loader.document
  simp only [hfile, Option.filter_none, hparse]

/-- **Loading from a JSON file** reports the file and resolves its configuration. -/
theorem loadConfig_of_held (hroot : IsRootSpelling root) (h : p.held? root = some config) :
    loadConfig p env (some root)
      = ⟨(config.process env ⟨.located, root⟩).attempt.outcome,
          ⟨.debug, Loader.loadedMessage (Loader.pathIn root .json)⟩
            :: (config.process env ⟨.located, root⟩).attempt.log⟩ := by
  obtain ⟨members, hdocument, hconfig⟩ := exists_document_of_held h
  have hshape : (Config.ofMembers members).mapError Failure.ofShape = .ok config := by
    rw [hconfig]
    rfl
  have hpath : p.configPath root = Loader.pathIn root .json := by
    unfold Host.configPath
    rw [chosen_of_held h]
    rfl
  rw [loadConfig_of_workspaceRoot (workspaceRoot_of_isRootSpelling hroot p) hroot, hdocument,
    check_ok, hshape, hpath, Logged.ok_bind]
  rfl

theorem library_of_process {root : Root} (h : (config.process env root).outcome = .ok resolved) :
    (resolveAll env .posix root config.library).outcome = .ok resolved.library := by
  unfold Config.process at h
  simp only [Logged.bind_eq_ok_iff] at h
  obtain ⟨_, _, library, hlibrary, _, _, _, _, heq⟩ := h
  rw [hlibrary, ← Except.ok.inj heq]

end WorkspacePaths
