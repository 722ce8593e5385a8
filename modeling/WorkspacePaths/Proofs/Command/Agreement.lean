import WorkspacePaths.Proofs.Command.Success
import WorkspacePaths.Proofs.Config.Loading
import WorkspacePaths.Proofs.Document.RoundTrip
import WorkspacePaths.Proofs.Entry.Mentions

/-!
# `Proofs.Command.Agreement` — two commands on the same entries

The libraries of a workspace can be had in two ways: as one of the lists that the configuration is
resolved to, or by giving the entries to the command that expands them. The two do the same with the
entries, but not in the same process: the configuration is resolved before the variable names the
root, the entries while it does. So an entry that reads the variable may come out differently. Any
other one does not, unless the root changes on its way through the variable.

## Contents
- `ListsLibrary`: what a document says about libraries; `listsLibrary_printLists`.
- `resolveAll_naming`: where the variable makes no difference.
- `expand_agrees_with_resolve`: what the two print, and when it is the same;
  `expand_agrees_in_workspace` at one workspace, `expand_differs_from_resolve` where they differ.
-/

namespace WorkspacePaths.Command

open Utf8

/-- The text is a document that lists the libraries. -/
def ListsLibrary (document : Text) (library : List Text) : Prop :=
  ∃ members : Members, Json.read document = .ok (.object members)
    ∧ members.get? "library" = some (Json.textsValue library)

theorem listsLibrary_printLists (config : Config) :
    ListsLibrary (line (Json.printLists config.pathSettings)) config.library :=
  ⟨Json.listMembers config.pathSettings, Json.read_printLists (by simp [Config.pathSettings])
    (by decide), rfl⟩

/-- A document lists one thing as its libraries. -/
theorem ListsLibrary.unique {document : Text} {library other : List Text}
    (h : ListsLibrary document library) (h' : ListsLibrary document other) : library = other := by
  obtain ⟨members, hread, hlibrary⟩ := h
  obtain ⟨members', hread', hother⟩ := h'
  obtain rfl : members = members' := by
    rw [hread] at hread'
    exact Value.object.inj (Except.ok.inj hread')
  rw [hlibrary] at hother
  exact (List.map_inj_right (fun _ _ => Value.text.inj)).mp
    (Value.array.inj (Option.some.inj hother))

variable {c : Context} {named root : Text} {config : Config} {resolved expanded : Report}

/-- Entries that do not read the variable stand for the same paths while it names the root; and so do
all entries if it named the root before. -/
theorem resolveAll_naming {entries : List Text}
    (h : c.workspace = some (canonical root)
      ∨ ∀ entry ∈ entries, ¬ Mentions c.host.environment workspaceVariable entry) (given : Root) :
    resolveAll c.host.environment .posix given entries
      = resolveAll (c.host.naming root).environment .posix given entries := by
  have hbroken : c.host.environment.broken = (c.host.naming root).environment.broken := rfl
  apply resolveAll_congr hbroken (c.host.home_naming root).symm
  intro entry hentry name hname
  show c.host.lookup name = (c.host.naming root).lookup name
  rcases h with hholds | hfree
  · exact (Host.lookup_naming_of_holds hholds name).symm
  · have hne : name ≠ workspaceVariable := by
      rintro rfl
      exact hfree entry hentry hname
    exact (Host.lookup_naming hne).symm

/-- **Where expanding agrees with resolving.** When both commands end well on a workspace that holds
its libraries in a JSON file, the first prints a document that lists the libraries as they resolve
before the variable is set, and the second the lines for what the same entries resolve to while it
names the root. So they agree exactly if these come to the same lines; and this is so if the root
comes back from the variable as it is, and the variable held it already or no entry reads it. -/
theorem expand_agrees_with_resolve (hcwd : c.host.cwd.startsWith "/" = true)
    (hroot : c.host.workspaceRoot (some named) = some root) (hheld : c.host.held? root = some config)
    (hentries : ∀ entry ∈ config.library, entry.startsWith "-" = false)
    (hresolve : (run commands (some ["resolve", workspaceOption, named]) c).result = .ok resolved)
    (hexpand : (run commands
      (some (("expand" : Text) :: config.library ++ [workspaceOption, named])) c).result
        = .ok expanded)
    (hresolved : resolved.exit = .number 0) (hexpanded : expanded.exit = .number 0) :
    ∃ library paths,
      ListsLibrary resolved.stdout library
      ∧ (resolveAll c.host.environment .posix ⟨.located, root⟩ config.library).outcome
        = .ok library
      ∧ expanded.stdout = line (Text.joinWith "\n" paths)
      ∧ (resolveAll (c.host.naming root).environment .posix ⟨.located, canonical root⟩
          config.library).outcome = .ok paths
      ∧ (expanded.stdout = line (Text.joinWith "\n" library)
        ↔ Text.joinWith "\n" paths = Text.joinWith "\n" library)
      ∧ (canonical root = root →
        (c.workspace = some root
          ∨ ∀ entry ∈ config.library, ¬ Mentions c.host.environment workspaceVariable entry) →
        expanded.stdout = line (Text.joinWith "\n" library)) := by
  have hspelled := isRootSpelling_workspaceRoot hcwd hroot
  obtain ⟨processed, hload, hdocument⟩ := run_resolve_of_success hroot hresolve hresolved
  obtain ⟨paths, hpaths, hlines⟩ :=
    run_expand_of_success hspelled hentries hroot hexpand hexpanded
  rw [loadConfig_of_held hspelled hheld] at hload
  have hlibrary := library_of_process (Logged.mapFault_eq_ok_iff.mp hload)
  refine ⟨processed.library, paths, ?_, hlibrary, hlines, hpaths, ?_, ?_⟩
  · rw [hdocument]
    exact listsLibrary_printLists processed
  · rw [hlines]
    exact List.append_left_inj _
  · -- both resolve from one root, and what the entries read is the same before and after
    intro hcanonical hcase
    rw [← hcanonical] at hcase
    have hsame := congrArg Logged.outcome (resolveAll_naming hcase ⟨.located, root⟩)
    rw [hcanonical, ← hsame, hlibrary] at hpaths
    rw [hlines, Except.ok.inj hpaths]

/-! ## One entry that reads the variable -/

/-- A process with these variables, and a workspace with one library, which reads the variable. -/
def sampleHost (bindings : Bindings) : Host :=
  let source : Text :=
    "\x7b\"workspace\": \x7b\"library\": [\"$EMMYRC_WORKSPACE_ROOT/lib\"]\x7d\x7d"
  { bindings, files := [("/ws/.emmyrc.json", ⟨source.map (fun c => UInt8.ofNat c.value), 0⟩)] }

/-- The configuration of that workspace. -/
def sampleConfig : Config := { library := ["$EMMYRC_WORKSPACE_ROOT/lib"] }

/-- What is printed with exit code zero. -/
def printed (t : Text) : Report := { exit := .number 0, stdout := line t }

/-- If the variable names the workspace beforehand, the two agree even on such an entry. -/
theorem expand_agrees_in_workspace :
    ∃ resolved expanded library,
      (run commands (some ["resolve", workspaceOption, "/ws"])
        { host := sampleHost [(workspaceVariable, "/ws")] }).result = .ok resolved
      ∧ (run commands (some (("expand" : Text) :: sampleConfig.library ++ [workspaceOption, "/ws"]))
        { host := sampleHost [(workspaceVariable, "/ws")] }).result = .ok expanded
      ∧ ListsLibrary resolved.stdout library
      ∧ expanded.stdout = line (Text.joinWith "\n" library) := by
  have hresolve : (run commands (some ["resolve", workspaceOption, "/ws"])
      { host := sampleHost [(workspaceVariable, "/ws")] }).result
        = .ok (printed (Json.printLists (Config.pathSettings { library := ["/ws/lib"] }))) :=
    toOption_eq_some_iff.mp (by decide +kernel)
  have hexpand : (run commands
      (some (("expand" : Text) :: sampleConfig.library ++ [workspaceOption, "/ws"]))
      { host := sampleHost [(workspaceVariable, "/ws")] }).result = .ok (printed "/ws/lib") :=
    toOption_eq_some_iff.mp (by decide +kernel)
  have hroot : (sampleHost [(workspaceVariable, "/ws")]).workspaceRoot (some "/ws") = some "/ws" := by
    decide +kernel
  have hheld : (sampleHost [(workspaceVariable, "/ws")]).held? "/ws" = some sampleConfig := by
    decide +kernel
  obtain ⟨library, _, hlists, _, _, _, _, hagree⟩ :=
    expand_agrees_with_resolve (c := { host := sampleHost [(workspaceVariable, "/ws")] }) rfl hroot
      hheld (by decide) hresolve hexpand rfl rfl
  exact ⟨_, _, library, hresolve, hexpand, hlists, hagree (by decide) (Or.inl rfl)⟩

/-- **The two do not always agree**: if the variable is unset beforehand, such an entry is resolved
without it and expanded with it. -/
theorem expand_differs_from_resolve :
    ¬ ∀ (c : Context) (named root : Text) (config : Config) (resolved expanded : Report),
      c.host.cwd.startsWith "/" = true → c.host.workspaceRoot (some named) = some root →
      c.host.held? root = some config →
      (∀ entry ∈ config.library, entry.hasSurrogate = false ∧ entry.startsWith "-" = false) →
      (run commands (some ["resolve", workspaceOption, named]) c).result = .ok resolved →
      (run commands (some (("expand" : Text) :: config.library ++ [workspaceOption, named]))
        c).result = .ok expanded →
      resolved.exit = .number 0 → expanded.exit = .number 0 →
      ∃ library, ListsLibrary resolved.stdout library
        ∧ expanded.stdout = line (Text.joinWith "\n" library) := by
  intro h
  have hresolve : (run commands (some ["resolve", workspaceOption, "/ws"])
      { host := sampleHost [] }).result
        = .ok (printed (Json.printLists (Config.pathSettings { library := ["/lib"] }))) :=
    toOption_eq_some_iff.mp (by decide +kernel)
  have hexpand : (run commands
      (some (("expand" : Text) :: sampleConfig.library ++ [workspaceOption, "/ws"]))
      { host := sampleHost [] }).result = .ok (printed "/ws/lib") :=
    toOption_eq_some_iff.mp (by decide +kernel)
  have hroot : (sampleHost []).workspaceRoot (some "/ws") = some "/ws" := by decide +kernel
  have hheld : (sampleHost []).held? "/ws" = some sampleConfig := by decide +kernel
  obtain ⟨library, hlists, hlines⟩ := h { host := sampleHost [] } "/ws" "/ws" sampleConfig _ _ rfl
    hroot hheld (by decide) hresolve hexpand rfl rfl
  -- the document lists what the entry resolves to without the variable, and nothing else
  obtain rfl : library = [("/lib" : Text)] :=
    hlists.unique (listsLibrary_printLists { library := ["/lib"] })
  exact absurd hlines (by decide)

end WorkspacePaths.Command
