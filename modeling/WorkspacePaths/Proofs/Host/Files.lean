import WorkspacePaths.Config.Loader
import WorkspacePaths.Proofs.Entry.Lookups
import WorkspacePaths.Proofs.Entry.Relative
import WorkspacePaths.Proofs.Host.Roots

/-!
# `Proofs.Host.Files` — the files of a workspace

A file is known by the way down to it. An absolute path leads the same way from every directory, and so
does the root of a workspace that the path names; so the configuration files of the root are those of
the path. The two files of a root lie side by side and have different names.

## Contents
- **Changes.** `file?_write`, `file?_remove`; `lookup_of_write`, `lookup_of_remove`; `disk`, all that
  looking paths up depends on, which variables leave alone.
- **Keys.** `fileKey_of_startsWith`; `fileKey_pathIn`, and `eq_of_fileKey_pathIn`, that formats have
  files of their own; `find_of_disk`, `lookup_of_find`.
- **Names that the system can hold.** `systemFault_ofText?_eq_none_iff`, `systemFault_pathIn`;
  `find_eq_ok_iff` and `find_eq_error_iff`, what is found by them; `exists_root_of_held`, the files of a
  root.
-/

namespace WorkspacePaths

variable {path given root : Text}

namespace Host

/-! ## Changes -/

theorem file?_remove (p : Host) (path other : Text) :
    (p.remove path).file? other
      = if p.fileKey other = p.fileKey path then none else p.file? other :=
  lookup_without p.files (p.fileKey path) (p.fileKey other)

theorem file?_write (p : Host) (path other : Text) (content : List UInt8) :
    (p.write path content).file? other
      = if p.fileKey other = p.fileKey path then some ⟨content, p.clock⟩ else p.file? other :=
  lookup_with p.files (p.fileKey path) ⟨content, p.clock⟩ (p.fileKey other)

/-- Removing a file only takes files away. -/
theorem lookup_of_remove {p : Host} {key : Text} {file : File}
    (h : (p.remove path).files.lookup key = some file) : p.files.lookup key = some file := by
  have hentry := (lookup_without p.files (p.fileKey path) key).symm.trans h
  split at hentry
  · exact absurd hentry (by simp)
  · exact hentry

/-- A file is the one that was written last, or was there before. -/
theorem lookup_of_write {p : Host} {key : Text} {content : List UInt8} {file : File}
    (h : (p.write path content).files.lookup key = some file) :
    file = ⟨content, p.clock⟩ ∨ p.files.lookup key = some file := by
  have hentry := (lookup_with p.files (p.fileKey path) (⟨content, p.clock⟩ : File) key).symm.trans h
  split at hentry
  · exact Or.inl (Option.some.inj hentry).symm
  · exact Or.inr hentry

/-- The files, how many writes there have been, and which paths the system refuses. -/
def disk (p : Host) : List (Text × File) × Nat × (Text → Option Refusal) :=
  (p.files, p.clock, p.refusedPath)

theorem disk_setVariable {p p' : Host} {name value : Text}
    (h : p.setVariable name value = .ok p') : p'.disk = p.disk := by
  unfold setVariable at h
  split at h
  · exact absurd h (by simp)
  · rw [← Except.ok.inj h]
    rfl

theorem disk_restoreVariable (p : Host) (name : Text) (before : Option Text) :
    (p.restoreVariable name before).disk = p.disk := by
  cases before with
  | none => rfl
  | some value => rfl

/-! ## Keys -/

/-- An absolute path leads to one file, whatever the current directory is. -/
theorem fileKey_of_startsWith (p : Host) (h : path.startsWith [slash] = true) :
    p.fileKey path = slash :: Text.joinWith [slash] (walk [] path) := by
  unfold fileKey
  rw [posixJoin_of_startsWith h]
  rfl

end Host

theorem Format.isName_fileName (format : Format) : IsName format.fileName ∧ slash ∉ format.fileName := by
  cases format with
  | json => exact ⟨⟨by decide, by decide, by decide⟩, by decide⟩
  | toml => exact ⟨⟨by decide, by decide, by decide⟩, by decide⟩

theorem Format.startsWith_fileName (format : Format) : format.fileName.startsWith [slash] = false := by
  cases format with
  | json => decide
  | toml => decide

theorem startsWith_pathIn (h : root.startsWith [slash] = true) (format : Format) :
    (Loader.pathIn root format).startsWith [slash] = true :=
  posixJoin_startsWith h format.fileName

/-- A configuration file lies in its root. -/
theorem walk_pathIn (h : root.startsWith [slash] = true) (format : Format) :
    walk [] (Loader.pathIn root format) = walk [] root ++ [format.fileName] := by
  obtain ⟨hname, hslash⟩ := format.isName_fileName
  have hne : root ≠ [] := by
    rintro rfl
    exact absurd h (by decide)
  unfold Loader.pathIn
  rw [walk_posixJoin hne format.startsWith_fileName, walk_eq, Text.splitOn_of_not_mem hslash,
    format.startsWith_fileName, if_neg (by simp), List.foldl_cons, List.foldl_nil, descend_name hname]

theorem Host.fileKey_pathIn (p : Host) (h : root.startsWith [slash] = true) (format : Format) :
    p.fileKey (Loader.pathIn root format)
      = slash :: Text.joinWith [slash] (walk [] root ++ [format.fileName]) := by
  rw [p.fileKey_of_startsWith (startsWith_pathIn h format), walk_pathIn h]

/-- Each format has a file of its own. -/
theorem Host.eq_of_fileKey_pathIn {p : Host} (h : root.startsWith [slash] = true) {format other : Format}
    (heq : p.fileKey (Loader.pathIn root format) = p.fileKey (Loader.pathIn root other)) :
    format = other := by
  have hsep : ∀ format : Format, ∀ name ∈ walk [] root ++ [format.fileName], slash ∉ name := by
    intro format name hname
    rcases List.mem_append.mp hname with hin | hlast
    · exact (isDirectory_walk (fun _ hname => absurd hname List.not_mem_nil) root name hin).2
    · exact List.mem_singleton.mp hlast ▸ format.isName_fileName.2
  rw [p.fileKey_pathIn h, p.fileKey_pathIn h] at heq
  -- joined names are found again by splitting, and the last of them is that of the file
  have hnames : walk [] root ++ [format.fileName] = walk [] root ++ [other.fileName] := by
    rw [← Text.splitOn_joinWith (by simp) (hsep format), (List.cons.inj heq).2,
      Text.splitOn_joinWith (by simp) (hsep other)]
  have hfile : format.fileName = other.fileName := by simpa using hnames
  cases format with
  | json =>
    cases other with
    | json => rfl
    | toml => exact absurd hfile (by decide)
  | toml =>
    cases other with
    | json => exact absurd hfile (by decide)
    | toml => rfl

/-- Where the files are the same, an absolute path leads to the same one. -/
theorem find_of_disk {p q : Host} (habsolute : path.startsWith [slash] = true)
    (hdisk : q.disk = p.disk) : Loader.find q path = Loader.find p path := by
  obtain ⟨hfiles, hrest⟩ := Prod.mk.inj hdisk
  obtain ⟨_, hrefused⟩ := Prod.mk.inj hrest
  unfold Loader.find Host.file?
  rw [q.fileKey_of_startsWith habsolute, p.fileKey_of_startsWith habsolute, hfiles, hrefused]

theorem lookup_of_find {p : Host} {file : File} (h : Loader.find p path = .ok (some file)) :
    p.files.lookup (p.fileKey path) = some file := by
  unfold Loader.find at h
  split at h
  · exact absurd h (by simp)
  · split at h
    · exact absurd h (by simp)
    · exact Except.ok.inj h

/-! ## Names that the system can hold -/

/-- The system can hold a text that has a form as a byte string without a zero in it. -/
theorem systemFault_ofText?_eq_none_iff {t : Text} :
    SystemFault.ofText? t = none ↔ t.HasByteForm ∧ CodePoint.scalar '\x00' ∉ t := by
  unfold SystemFault.ofText? SystemFault.ofTexts?
  rw [List.findSome?_cons, ← Text.systemFault?_eq_none_iff]
  cases t.systemFault? with
  | some fault => simp
  | none => simp

/-- The system can hold a text made of what another one holds, and slashes. -/
theorem systemFault_ofText?_of_mem {t u : Text} (h : SystemFault.ofText? t = none)
    (hmem : ∀ c ∈ u, c = slash ∨ c ∈ t) : SystemFault.ofText? u = none := by
  obtain ⟨hform, hzero⟩ := systemFault_ofText?_eq_none_iff.mp h
  rw [systemFault_ofText?_eq_none_iff]
  constructor
  · intro c hc hsurrogate
    rcases hmem c hc with rfl | hin
    · exact absurd hsurrogate (by decide)
    · exact hform c hin hsurrogate
  · intro hc
    rcases hmem _ hc with heq | hin
    · exact absurd heq (by decide)
    · exact hzero hin

theorem systemFault_ofText?_append {t u : Text} :
    SystemFault.ofText? (t ++ u) = none ↔
      SystemFault.ofText? t = none ∧ SystemFault.ofText? u = none := by
  simp only [systemFault_ofText?_eq_none_iff, Text.HasByteForm, List.mem_append, or_imp, forall_and,
    not_or]
  constructor
  · rintro ⟨⟨ht, hu⟩, htz, huz⟩
    exact ⟨⟨ht, htz⟩, hu, huz⟩
  · rintro ⟨⟨ht, htz⟩, hu, huz⟩
    exact ⟨⟨ht, hu⟩, htz, huz⟩

/-- The system can hold the path of a configuration file if it can hold the root. -/
theorem systemFault_pathIn (h : SystemFault.ofText? root = none) (format : Format) :
    SystemFault.ofText? (Loader.pathIn root format) = none := by
  have hfile : SystemFault.ofText? format.fileName = none
      ∧ SystemFault.ofText? (slash :: format.fileName) = none := by
    cases format with
    | json => decide
    | toml => decide
  obtain ⟨hname, hbehind⟩ := hfile
  unfold Loader.pathIn
  rw [posixJoin_of_not_startsWith format.startsWith_fileName]
  split
  · exact systemFault_ofText?_append.mpr ⟨h, hname⟩
  · exact systemFault_ofText?_append.mpr ⟨h, hbehind⟩

/-- Only a refusal of the system keeps a path from being looked up. -/
theorem find_eq_error_iff {p : Host} {fault : ConfigFault} :
    Loader.find p path = .error fault ↔
      SystemFault.ofText? path = none
        ∧ ∃ refusal, p.refusedPath path = some refusal ∧ fault = .refused path refusal := by
  unfold Loader.find
  cases SystemFault.ofText? path with
  | some unheld => simp
  | none =>
    cases p.refusedPath path with
    | none => simp
    | some refusal => simp [eq_comm]

/-- A path that the system holds and does not refuse leads to the file there. -/
theorem find_eq_ok_iff {p : Host} {found : Option File} (hheld : SystemFault.ofText? path = none) :
    Loader.find p path = .ok found ↔ p.refusedPath path = none ∧ p.file? path = found := by
  unfold Loader.find
  rw [hheld]
  cases p.refusedPath path with
  | none => simp
  | some refusal => simp

/-- **The configuration files of a root are those of the path that names it**: an absolute path that the
system can hold names the same root in every process, and the root is where the path leads. -/
theorem exists_root_of_held (hstart : given.startsWith [slash] = true)
    (hheld : SystemFault.ofText? given = none) :
    ∃ root, IsRootSpelling root ∧ (∀ p : Host, p.workspaceRoot (some given) = some root)
      ∧ (∀ format, SystemFault.ofText? (Loader.pathIn root format) = none)
      ∧ ∀ (p : Host) (format : Format),
          p.file? (Loader.pathIn root format) = p.file? (Loader.pathIn given format) := by
  obtain ⟨root, hroot, hwalk, hnamed⟩ := workspaceRoot_of_startsWith hstart
  have hrootStart : root.startsWith [slash] = true := hroot.startsWith
  have hrootHeld : SystemFault.ofText? root = none := by
    refine systemFault_ofText?_of_mem hheld ?_
    intro c hc
    rcases mem_of_mem_root hroot hc with hslash | ⟨name, hname, hin⟩
    · exact Or.inl hslash
    · rw [hwalk] at hname
      exact Or.inr (Text.mem_of_mem_splitOn (mem_splitOn_of_mem_walk hname) hin)
  refine ⟨root, hroot, hnamed, systemFault_pathIn hrootHeld, ?_⟩
  intro p format
  have hkey : p.fileKey (Loader.pathIn root format) = p.fileKey (Loader.pathIn given format) := by
    rw [p.fileKey_pathIn hrootStart, p.fileKey_pathIn hstart, hwalk]
  unfold Host.file?
  rw [hkey]

end WorkspacePaths
