import WorkspacePaths.Proofs.Config.Processing
import WorkspacePaths.Proofs.Entry.Outcome
import WorkspacePaths.Proofs.Entry.Replacement
import WorkspacePaths.Proofs.Path.Driveless

/-!
# `Proofs.Config.Reprocessing` — resolved paths that are resolved again

What resolution makes of an entry is a path from the top in normal form. Read as an entry, such a path is
anchored to nothing and is its own normal form. So the one thing that a second resolution may change is a
reference that has come out of the first: a dollar sign, or a placeholder that asks for something. A path
without any stays as it is, in every workspace and in every table. Placeholders that ask for nothing may
stand in it, and so may single braces, and tildes behind the first slash.

Lists of such paths hold no repeats either, so a configuration may be processed once or twice.

## Contents
- `FreeOfReferences`: texts in which nothing is replaced; `expand_of_freeOfReferences`.
- **Paths.** `IsSettled`, `resolve_of_settled`, `isSettled_path`.
- **Lists.** `resolveAll_of_settled`, `process_of_settled`, `exists_process_eq_ok`.
- `process_process`; `process_process_of_braces` for paths with tokens that ask for nothing.
-/

namespace WorkspacePaths

variable {t path : Text} {root : Root} {bs : Bindings} {home : Option Text}

/-! ## References -/

/-- The key of a token. -/
def Piece.key? : Piece → Option Text
  | .plain _ => none
  | .token key => some key

/-- Nothing in the text is replaced: it has no dollar sign, and none of its placeholders asks for the
workspace folder or for a variable. -/
structure FreeOfReferences (t : Text) : Prop where
  no_dollar : dollar ∉ t
  no_reference : ∀ key, .token key ∈ placeholderPieces t →
    key ≠ ("workspaceFolder" : Text) ∧ key.startsWith "env:" = false

theorem freeOfReferences_iff :
    FreeOfReferences t ↔ dollar ∉ t ∧ ∀ piece ∈ placeholderPieces t,
      ∀ key ∈ piece.key?, Reference.ofKey key = .unknown := by
  constructor
  · rintro ⟨hdollar, hreference⟩
    refine ⟨hdollar, ?_⟩
    intro piece hpiece key hkey
    cases piece with
    | plain c => exact absurd hkey (by simp [Piece.key?])
    | token name =>
      obtain rfl : name = key := Option.mem_some_iff.mp hkey
      exact Reference.ofKey_eq_unknown_iff.mpr (hreference name hpiece)
  · rintro ⟨hdollar, hunknown⟩
    refine ⟨hdollar, ?_⟩
    intro key hkey
    exact Reference.ofKey_eq_unknown_iff.mp (hunknown _ hkey key (Option.mem_some_self key))

instance (t : Text) : Decidable (FreeOfReferences t) := decidable_of_iff' _ freeOfReferences_iff

namespace Bindings

/-- Placeholders that ask for nothing are written as they are, and so is everything else. -/
theorem replacePlaceholders_of_unknown (bs : Bindings) (folder : Text)
    (h : ∀ key, .token key ∈ placeholderPieces t → Reference.ofKey key = .unknown) :
    bs.replacePlaceholders folder t = t := by
  obtain ⟨r, hr⟩ := TokenForm.exists_isReading placeholderForm_recognises t
  -- the reading is filled with what stands in the text already
  have hsame : r.fill (bs.keyText folder) = r.fill placeholderForm.write := by
    apply TokenReading.fill_congr
    intro key hkey
    refine bs.keyText_unknown folder (h key ?_)
    unfold placeholderPieces
    rw [TokenForm.pieces_of_isReading placeholderForm_recognises hr]
    exact TokenReading.token_mem_pieces_iff.mpr hkey
  rw [bs.replacePlaceholders_of_isReading folder hr, hsame, hr.text]

theorem expand_of_freeOfReferences (bs : Bindings) (folder : Text) (h : FreeOfReferences t) :
    bs.expand folder t = t := by
  have hunknown : ∀ key, .token key ∈ placeholderPieces t → Reference.ofKey key = .unknown :=
    fun key hkey => Reference.ofKey_eq_unknown_iff.mpr (h.no_reference key hkey)
  unfold expand
  rw [bs.expandVariables_of_no_dollar h.no_dollar, bs.replacePlaceholders_of_unknown folder hunknown]

end Bindings

/-! ## Paths -/

/-- A path from the top that is its own normal form. -/
def IsSettled (path : Text) : Prop :=
  path.startsWith [slash] = true ∧ normalise .posix path = path

theorem isSettled_normalise (h : path.startsWith [slash] = true) :
    IsSettled (normalise .posix path) := by
  refine ⟨(isAbsoluteNormal_normalise h).rooted, ?_⟩
  have hposition := Flavour.position_normalise_of_drives_eq_false (f := .posix) rfl (by decide) path
  exact congrArg (Position.render .posix) hposition

/-- **A settled path without references stays as it is**, whatever surrounds it. -/
theorem resolve_of_settled (bs : Bindings) (home : Option Text) (hvalid : root.text.hasSurrogate = false)
    (hpath : IsSettled path) (hfree : FreeOfReferences path) :
    resolve (.ofBindings bs home) .posix root path = ⟨.ok path, []⟩ := by
  have hexpand : bs.expand root.text path = path := bs.expand_of_freeOfReferences root.text hfree
  have hanchor : anchor (.ofBindings bs home) .posix root.text (bs.expand root.text path)
      = some path := by
    -- a text that begins with a slash is anchored to neither the home directory nor the root
    obtain ⟨rest, rfl⟩ := Text.startsWith_singleton_iff.mp hpath.1
    rw [hexpand]
    unfold anchor
    rw [Anchor.ofText_slash]
  rw [Bindings.resolve_of_anchor hvalid hanchor, hpath.2, bs.unsetReports_of_no_dollar hfree.no_dollar]

/-- **Every entry becomes a settled path**, if the root and the home directory lead from the top. -/
theorem isSettled_path {home : Text} (hhome : home.startsWith [slash] = true)
    (hroot : root.text.startsWith [slash] = true) (hvalid : root.text.hasSurrogate = false)
    (entry : Text) : IsSettled (bs.path (some home) .posix root entry) := by
  have hsome : anchor (.ofBindings bs (some home)) .posix root.text (bs.expand root.text entry)
      ≠ none := by
    intro hnone
    exact Option.some_ne_none home (anchor_eq_none_iff.mp hnone).2
  obtain ⟨anchored, hanchored⟩ := Option.ne_none_iff_exists'.mp hsome
  have hrooted : anchored.startsWith [slash] = true := by
    refine anchor_posix_startsWith hroot ?_ hanchored
    rintro _ directory hdirectory
    rw [← Option.some.inj hdirectory]
    exact hhome
  unfold Bindings.path
  rw [if_neg (by simp [hvalid]), hanchored]
  exact isSettled_normalise hrooted

/-! ## Lists -/

/-- A list of such paths without repeats stays as it is. -/
theorem resolveAll_of_settled (bs : Bindings) (home : Option Text)
    (hvalid : root.text.hasSurrogate = false) {paths : List Text} (hnodup : paths.Nodup)
    (h : ∀ path ∈ paths, IsSettled path ∧ FreeOfReferences path) :
    resolveAll (.ofBindings bs home) .posix root paths = ⟨.ok paths, []⟩ := by
  have heach : Logged.forEach (resolve (.ofBindings bs home) .posix root) paths = ⟨.ok paths, []⟩ := by
    apply Logged.forEach_of_same
    intro path hpath
    exact resolve_of_settled bs home hvalid (h path hpath).1 (h path hpath).2
  have hsame : dropRepeats [] paths = paths :=
    dropRepeats_of_nodup hnodup (fun path _ => List.not_mem_nil)
  unfold resolveAll
  rw [heach, Logged.ok_bind, hsame]
  rfl

/-- The paths of a configuration are settled, and in none of its lists one comes twice. -/
theorem process_of_settled (bs : Bindings) (home : Option Text)
    (hvalid : root.text.hasSurrogate = false) {config : Config}
    (h : ∀ list ∈ config.pathSettings, list.2.Nodup ∧
      ∀ path ∈ list.2, IsSettled path ∧ FreeOfReferences path) :
    config.process (.ofBindings bs home) root = ⟨.ok config, []⟩ := by
  have hlist : ∀ list ∈ config.pathSettings,
      resolveAll (.ofBindings bs home) .posix root list.2 = ⟨.ok list.2, []⟩ :=
    fun list hmem => resolveAll_of_settled bs home hvalid (h list hmem).1 (h list hmem).2
  simp only [Config.pathSettings, List.forall_mem_cons] at hlist
  obtain ⟨hroots, hlibrary, hignore, hresource, -⟩ := hlist
  unfold Config.process
  simp only [hroots, hlibrary, hignore, hresource, Logged.ok_bind]
  rfl

/-- **A processed configuration holds settled paths**, none of them twice in one list. -/
theorem exists_process_eq_ok {home : Text} (hhome : home.startsWith [slash] = true)
    (hroot : root.text.startsWith [slash] = true) (hvalid : root.text.hasSurrogate = false)
    (config : Config) :
    ∃ processed log, config.process (.ofBindings bs (some home)) root = ⟨.ok processed, log⟩
      ∧ ∀ list ∈ processed.pathSettings, list.2.Nodup ∧ ∀ path ∈ list.2, IsSettled path := by
  have hlist : ∀ entries : List Text,
      (dropRepeats [] (entries.map (bs.path (some home) .posix root))).Nodup
        ∧ ∀ path ∈ dropRepeats [] (entries.map (bs.path (some home) .posix root)), IsSettled path := by
    intro entries
    refine ⟨nodup_dropRepeats _ _, ?_⟩
    intro path hpath
    obtain ⟨entry, _, rfl⟩ := List.mem_map.mp (mem_dropRepeats.mp hpath).1
    exact isSettled_path hhome hroot hvalid entry
  refine ⟨_, _, process_of_ok (bs.resolveAll_ofBindings (some home) .posix root) config, ?_⟩
  simp only [Config.pathSettings, List.forall_mem_cons]
  exact ⟨hlist _, hlist _, hlist _, hlist _, fun list hnone => absurd hnone List.not_mem_nil⟩

/-! ## Main result -/

/-- **Resolved paths are fixed points**, where the root and the home directory lead from the top. Every
entry has a path. If nothing in the path is replaced, it is resolved to itself without a report, whatever
the table, the home directory and the root are then, as long as the root has a UTF-8 form. So a
configuration is processed to the same one and with the same records, whether once or once again, if
nothing in the paths of the processed one is replaced. -/
theorem process_process (bs : Bindings) {home : Text} {root : Root}
    (hhome : home.startsWith "/" = true) (hroot : root.text.startsWith "/" = true)
    (hvalid : root.text.hasSurrogate = false) :
    let env := Environment.ofBindings bs (some home)
    (∀ entry, ∃ path, (resolve env .posix root entry).outcome = .ok path
      ∧ (FreeOfReferences path → ∀ bs' home' root', root'.text.hasSurrogate = false →
          resolve (.ofBindings bs' home') .posix root' path = ⟨.ok path, []⟩))
    ∧ ∀ config : Config, ∃ processed, (config.process env root).outcome = .ok processed
      ∧ ((∀ list ∈ processed.pathSettings, ∀ path ∈ list.2, FreeOfReferences path) →
          ∀ bs' home' root', root'.text.hasSurrogate = false →
            (config.process env root >>= fun once => once.process (.ofBindings bs' home') root')
              = config.process env root) := by
  intro env
  refine ⟨?_, ?_⟩
  · intro entry
    refine ⟨_, bs.outcome_resolve (some home) .posix root entry, ?_⟩
    intro hfree bs' home' root' hvalid'
    exact resolve_of_settled bs' home' hvalid' (isSettled_path hhome hroot hvalid entry) hfree
  · intro config
    obtain ⟨processed, log, hprocess, hlists⟩ := exists_process_eq_ok hhome hroot hvalid config
    refine ⟨processed, congrArg Logged.outcome hprocess, ?_⟩
    intro hfree bs' home' root' hvalid'
    have hagain : processed.process (.ofBindings bs' home') root' = ⟨.ok processed, []⟩ := by
      refine process_of_settled bs' home' hvalid' (fun list hlist => ?_)
      obtain ⟨hnodup, hsettled⟩ := hlists list hlist
      exact ⟨hnodup, fun path hpath => ⟨hsettled path hpath, hfree list hlist path hpath⟩⟩
    rw [hprocess, Logged.ok_bind, hagain, List.append_nil]

/-- Braces that come out of a value and keys that ask for nothing stay in a path, and are left alone when
the path is resolved again, by another table and below a root that is not even absolute. -/
theorem process_process_of_braces :
    let env := Environment.ofBindings [("A", "b\x7d\x7b~")] (some "/home/me")
    let root := Root.ofText "/ws//x/."
    let config : Config := { library := ["./$A/{d}", "$A/../{d}", "x/../{d}", "~c"] }
    ("/home/me" : Text).startsWith "/" = true ∧ root.text.startsWith "/" = true
      ∧ root.text.hasSurrogate = false
      ∧ resolve (.ofBindings [("d", "/")] none) .posix (.ofText "r") "/ws/x/b\x7d\x7b~/{d}"
        = ⟨.ok "/ws/x/b\x7d\x7b~/{d}", []⟩
      ∧ (config.process env root).outcome
        = .ok { library := ["/ws/x/b\x7d\x7b~/{d}", "/ws/x/{d}", "/home/me/c"] }
      ∧ (config.process env root >>= fun once => once.process (.ofBindings [] none) (.ofText "r"))
        = config.process env root := by
  intro env root config
  have hhome : ("/home/me" : Text).startsWith "/" = true := by decide
  have hroot : root.text.startsWith "/" = true := by decide
  have hvalid : root.text.hasSurrogate = false := by decide
  have hother : (Root.ofText "r").text.hasSurrogate = false := by decide
  obtain ⟨hentry, hconfig⟩ := process_process [("A", "b\x7d\x7b~")] hhome hroot hvalid
  obtain ⟨path, hpath, hagain⟩ := hentry "./$A/{d}"
  obtain rfl : ("/ws/x/b\x7d\x7b~/{d}" : Text) = path := Except.ok.inj (Eq.trans (by rfl) hpath)
  obtain ⟨processed, hprocessed, htwice⟩ := hconfig config
  have hvalue : (config.process env root).outcome
      = .ok { library := ["/ws/x/b\x7d\x7b~/{d}", "/ws/x/{d}", "/home/me/c"] } := by rfl
  obtain rfl := Except.ok.inj (hvalue.symm.trans hprocessed)
  exact ⟨hhome, hroot, hvalid, hagain (by decide) _ none _ hother, hvalue,
    htwice (by decide) [] none _ hother⟩

end WorkspacePaths
