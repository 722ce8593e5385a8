import WorkspacePaths.Proofs.Config.Reading

/-!
# `Proofs.Config.Remembering` — what a loader remembers is what it would read

A loader does not read its file again while the stamp of the file is the one that it remembers. That is
safe because of two invariants. Of the host: every stamp is of the past, and files with one stamp are one
file. Of the loader: what it remembers was in a file with that stamp, and whichever file has that stamp now
still holds it. Writing keeps both, as it gives the file a stamp that nobody remembers; removing keeps
them, as it only takes files away; and reading keeps them, as only a document that was read is remembered.
So what is remembered is what would be read, and a document that was refused is not remembered at all.

## Contents
- **Stamps.** `Host.Stamped`, kept by writing and removing.
- **What loaders remember.** `Loader.Fits`, kept by these and by reading; a new loader fits.
- `document_of_fits`: a loader that fits reads the file as it stands.
-/

namespace WorkspacePaths

variable {p q : Host} {l : Loader} {path : Text} {content : List UInt8}

/-! ## Stamps -/

/-- The files were written in the past, each of them at a time of its own. -/
structure Host.Stamped (p : Host) : Prop where
  past : ∀ key file, p.files.lookup key = some file → file.stamp < p.clock
  unique : ∀ key file key' file', p.files.lookup key = some file → p.files.lookup key' = some file' →
    file.stamp = file'.stamp → file = file'

namespace Host.Stamped

theorem of_no_files (h : p.files = []) : p.Stamped where
  past key file hfile := absurd hfile (by simp [h])
  unique key file _ _ hfile := absurd hfile (by simp [h])

theorem of_disk (h : p.Stamped) (hdisk : q.disk = p.disk) : q.Stamped := by
  obtain ⟨hfiles, hrest⟩ := Prod.mk.inj hdisk
  obtain ⟨hclock, _⟩ := Prod.mk.inj hrest
  constructor
  · rw [hfiles, hclock]
    exact h.past
  · rw [hfiles]
    exact h.unique

theorem write (h : p.Stamped) : (p.write path content).Stamped := by
  constructor
  · intro key file hfile
    show file.stamp < p.clock + 1
    rcases lookup_of_write hfile with rfl | hold
    · exact Nat.lt_succ_self _
    · exact Nat.lt_succ_of_lt (h.past key file hold)
  · intro key file key' file' hfile hfile' hstamp
    -- the new stamp is none of the old ones
    rcases lookup_of_write hfile with rfl | hold
    · rcases lookup_of_write hfile' with rfl | hold'
      · rfl
      · exact absurd hstamp (Nat.ne_of_gt (h.past key' file' hold'))
    · rcases lookup_of_write hfile' with rfl | hold'
      · exact absurd hstamp (Nat.ne_of_lt (h.past key file hold))
      · exact h.unique key file key' file' hold hold' hstamp

theorem remove (h : p.Stamped) : (p.remove path).Stamped where
  past key file hfile := h.past key file (lookup_of_remove hfile)
  unique key file key' file' hfile hfile' :=
    h.unique key file key' file' (lookup_of_remove hfile) (lookup_of_remove hfile')

end Host.Stamped

/-! ## What loaders remember -/

/-- What a loader remembers was read in the past, and is what every file with that stamp holds. -/
structure Loader.Fits (l : Loader) (p : Host) : Prop where
  past : ∀ reading, l.last = some reading → reading.stamp < p.clock
  same : ∀ reading key file, l.last = some reading → p.files.lookup key = some file →
    reading.stamp = file.stamp → l.format.parse file.content = .ok reading.document

namespace Loader.Fits

theorem of_new (h : l.last = none) (p : Host) : l.Fits p where
  past reading hlast := absurd (h.symm.trans hlast) (by simp)
  same reading _ _ hlast := absurd (h.symm.trans hlast) (by simp)

theorem of_disk (h : l.Fits p) (hdisk : q.disk = p.disk) : l.Fits q := by
  obtain ⟨hfiles, hrest⟩ := Prod.mk.inj hdisk
  obtain ⟨hclock, _⟩ := Prod.mk.inj hrest
  constructor
  · rw [hclock]
    exact h.past
  · rw [hfiles]
    exact h.same

theorem write (h : l.Fits p) : l.Fits (p.write path content) where
  past reading hlast := Nat.lt_succ_of_lt (h.past reading hlast)
  same := by
    intro reading key file hlast hfile hstamp
    rcases Host.lookup_of_write hfile with rfl | hold
    · exact absurd hstamp (Nat.ne_of_lt (h.past reading hlast))
    · exact h.same reading key file hlast hold hstamp

theorem remove (h : l.Fits p) : l.Fits (p.remove path) where
  past := h.past
  same reading key file hlast hfile := h.same reading key file hlast (Host.lookup_of_remove hfile)

/-- A loader for a workspace is new. -/
theorem of_ofRoot {root : Option Text} (h : Loader.ofRoot p root = .ok l) (q : Host) : l.Fits q := by
  unfold Loader.ofRoot at h
  split at h
  · exact absurd h (by simp)
  · split at h
    · exact absurd h (by simp)
    · rw [← Except.ok.inj h]
      exact of_new rfl q

/-- What was read just now fits. -/
theorem document (h : l.Fits p) (hp : p.Stamped) : (l.document p).2.Fits p := by
  rcases document_cases l p with
    ⟨_, _, hdocument⟩ | ⟨_, hdocument⟩ | ⟨file, hfind, ⟨_, _, _, hdocument⟩
      | ⟨members, hparse, hdocument⟩ | ⟨_, _, hdocument⟩⟩
  · rw [hdocument]
    exact h
  · rw [hdocument]
    exact h
  · rw [hdocument]
    exact h
  · rw [hdocument]
    have hlookup := lookup_of_find hfind
    constructor
    · intro reading hlast
      rw [← Option.some.inj hlast]
      exact hp.past _ file hlookup
    · intro reading key other hlast hother hstamp
      rw [← Option.some.inj hlast] at hstamp ⊢
      rw [← hp.unique _ file key other hlookup hother hstamp]
      exact hparse
  · rw [hdocument]
    exact h

end Loader.Fits

/-- **A loader reads the file as it stands**, if what it remembers fits. -/
theorem document_of_fits (h : l.Fits p) : (l.document p).1 = p.read l.format l.path := by
  unfold Host.read
  rcases document_cases l p with
    ⟨fault, hfind, hdocument⟩ | ⟨hfind, hdocument⟩ | ⟨file, hfind, ⟨reading, hlast, hstamp, hdocument⟩
      | ⟨members, hparse, hdocument⟩ | ⟨fault, hparse, hdocument⟩⟩
  · simp only [hfind, hdocument]
  · simp only [hfind, hdocument]
  · have hparse := h.same reading _ file hlast (lookup_of_find hfind) hstamp
    simp only [hfind, hparse, hdocument, Except.mapError]
  · simp only [hfind, hparse, hdocument, Except.mapError]
  · simp only [hfind, hparse, hdocument, Except.mapError]

end WorkspacePaths
