import WorkspacePaths.Proofs.Entry.Anchor
import WorkspacePaths.Proofs.Entry.Table

/-!
# `Proofs.Entry.Spelling` — spellings of one entry

An entry that is relative to the workspace can be written in several ways: with `./` in front, with
the placeholder of the workspace folder, in its older form with a dollar sign too, or with nothing at
all. The ways differ in how they are anchored: `./` joins, the placeholder puts the root in and makes
the entry absolute. They agree because folding goes on behind a slash, whatever stands on either side
of it.

## Contents
- `folderToken`, `normalise_posixJoin_stripLeading`.
- `resolve_current`, `resolve_folder`, `resolve_folder_dollar`, `resolve_relative`, `resolve_home`:
  what each spelling comes to.
- `resolve_spellings`: they agree; `resolve_spellings_of_tokens` at one entry.
-/

namespace WorkspacePaths

/-- The placeholder of the workspace folder. -/
def folderToken : Text := openBrace :: workspaceFolderKey ++ [closeBrace]

/-- Joining drops slashes in front of the tail, and folding passes over them. -/
theorem normalise_posixJoin_stripLeading {root : Text} (hroot : root ≠ []) (t : Text) :
    normalise .posix (posixJoin root (Flavour.posix.stripLeading t))
      = normalise .posix (root ++ slash :: t) := by
  unfold normalise
  rw [Flavour.position_posixJoin hroot (Flavour.startsWith_stripLeading t),
    Flavour.foldl_readPart_stripLeading, Flavour.position_append_slash hroot]

/-- Behind a root, `./` changes nothing. -/
theorem normalise_append_current {root : Text} (hroot : root ≠ []) (t : Text) :
    normalise .posix (root ++ slash :: dot :: slash :: t)
      = normalise .posix (root ++ slash :: t) := by
  have hparts : Text.splitOn (dot :: slash :: t) [slash] = [dot] :: t.splitOn [slash] := by
    show Text.splitOn ([dot] ++ slash :: t) [slash] = _
    rw [Text.splitOn_append_cons, Text.splitOn_of_not_mem (by decide), List.singleton_append]
  unfold normalise
  rw [Flavour.position_append_slash hroot, Flavour.position_append_slash hroot, hparts]
  rfl

namespace Bindings

variable (bs : Bindings) (home : Option Text) {root : Root} {t : Text}

/-! ## Expansion -/

theorem expand_folder (folder t : Text) :
    bs.expand folder (folderToken ++ slash :: t) = folder ++ slash :: bs.expand folder t := by
  have hexpand : bs.expandVariables (folderToken ++ slash :: t)
      = openBrace :: workspaceFolderKey ++ closeBrace :: ([slash] ++ bs.expandVariables t) :=
    expandVariables_append (a := folderToken ++ [slash]) (by decide) t
  unfold expand
  rw [hexpand, replacePlaceholders_token (by decide) (by decide),
    replacePlaceholders_append (by decide)]
  rfl

theorem unsetReports_folder (t : Text) :
    bs.unsetReports (folderToken ++ slash :: t) = bs.unsetReports t :=
  unsetReports_append (a := folderToken ++ [slash]) (by decide) t

/-! ## Resolution -/

/-- `./` in front of an entry keeps it below the root. -/
theorem resolve_current (hroot : root.text ≠ []) (hvalid : root.text.hasSurrogate = false)
    (t : Text) :
    resolve (Environment.ofBindings bs home) .posix root (dot :: slash :: t)
      = ⟨.ok (normalise .posix (root.text ++ slash :: bs.expand root.text t)),
          bs.unsetReports t⟩ := by
  have hexpand : bs.expand root.text (dot :: slash :: t)
      = dot :: slash :: bs.expand root.text t :=
    expand_append (a := [dot, slash]) (by decide) (by decide) t
  have hreports : bs.unsetReports (dot :: slash :: t) = bs.unsetReports t :=
    unsetReports_append (a := [dot, slash]) (by decide) t
  have hanchor : anchor (Environment.ofBindings bs home) .posix root.text
      (bs.expand root.text (dot :: slash :: t))
        = some (posixJoin root.text (Flavour.posix.stripLeading (bs.expand root.text t))) := by
    rw [hexpand]
    unfold anchor
    rw [Anchor.ofText_current]
    rfl
  rw [resolve_of_anchor hvalid hanchor, hreports, normalise_posixJoin_stripLeading hroot]

/-- The placeholder of the workspace folder puts the root in front of an entry. -/
theorem resolve_folder (hroot : root.text.startsWith [slash] = true)
    (hvalid : root.text.hasSurrogate = false) (t : Text) :
    resolve (Environment.ofBindings bs home) .posix root (folderToken ++ slash :: t)
      = ⟨.ok (normalise .posix (root.text ++ slash :: bs.expand root.text t)),
          bs.unsetReports t⟩ := by
  have hanchor : anchor (Environment.ofBindings bs home) .posix root.text
      (bs.expand root.text (folderToken ++ slash :: t))
        = some (root.text ++ slash :: bs.expand root.text t) := by
    obtain ⟨rest, hrest⟩ := Text.startsWith_singleton_iff.mp hroot
    rw [expand_folder]
    unfold anchor
    rw [hrest, List.cons_append, Anchor.ofText_slash]
  rw [resolve_of_anchor hvalid hanchor, unsetReports_folder]

/-- A dollar sign in front of the placeholder goes away before the placeholder is looked at. -/
theorem resolve_folder_dollar (hvalid : root.text.hasSurrogate = false) (t : Text) :
    resolve (Environment.ofBindings bs home) .posix root (dollar :: (folderToken ++ slash :: t))
      = resolve (Environment.ofBindings bs home) .posix root (folderToken ++ slash :: t) := by
  have hfolder : folderToken ++ slash :: t
      = openBrace :: (workspaceFolderKey ++ [closeBrace] ++ slash :: t) := rfl
  have hexpand : bs.expand root.text (dollar :: (folderToken ++ slash :: t))
      = bs.expand root.text (folderToken ++ slash :: t) := by
    unfold expand
    rw [hfolder, expandVariables_dollar CodePoint.isWord_openBrace]
  rw [resolve_of_not_surrogate hvalid, resolve_of_not_surrogate hvalid, hexpand, hfolder,
    unsetReports_dollar CodePoint.isWord_openBrace]

/-- An entry with nothing in front is below the root unless expansion makes it begin with a slash or
a tilde. -/
theorem resolve_relative (hroot : root.text ≠ []) (hvalid : root.text.hasSurrogate = false)
    (hslash : (bs.expand root.text t).startsWith [slash] = false)
    (htilde : (bs.expand root.text t).startsWith [tilde] = false) :
    resolve (Environment.ofBindings bs home) .posix root t
      = ⟨.ok (normalise .posix (root.text ++ slash :: bs.expand root.text t)),
          bs.unsetReports t⟩ := by
  obtain ⟨rest, hof, hrest, hcase⟩ := Anchor.ofText_relative htilde hslash
  have hanchor : anchor (Environment.ofBindings bs home) .posix root.text (bs.expand root.text t)
      = some (posixJoin root.text rest) := by
    unfold anchor
    rw [hof]
    rfl
  have hnormal : normalise .posix (posixJoin root.text rest)
      = normalise .posix (root.text ++ slash :: bs.expand root.text t) := by
    -- the entry has nothing in front, or `./` and perhaps more slashes
    rcases hcase with rfl | ⟨behind, hexpand, rfl⟩
    · have hjoin := normalise_posixJoin_stripLeading hroot (bs.expand root.text t)
      rwa [Flavour.stripLeading_of_not_startsWith hrest] at hjoin
    · rw [normalise_posixJoin_stripLeading hroot, hexpand, normalise_append_current hroot]
  rw [resolve_of_anchor hvalid hanchor, hnormal]

/-- Behind a tilde, a slash changes nothing. -/
theorem resolve_home {directory : Text} (hvalid : root.text.hasSurrogate = false)
    (hhome : home = some directory) (t : Text) :
    resolve (Environment.ofBindings bs home) .posix root (tilde :: slash :: t)
      = resolve (Environment.ofBindings bs home) .posix root (tilde :: t) := by
  have hstrip : Flavour.posix.stripLeading (slash :: bs.expand root.text t)
      = Flavour.posix.stripLeading (bs.expand root.text t) := by
    rw [Flavour.stripLeading_posix, Flavour.stripLeading_posix,
      List.dropWhile_cons_of_pos (by simp)]
  have hslash : bs.expand root.text (tilde :: slash :: t)
      = tilde :: slash :: bs.expand root.text t :=
    expand_append (a := [tilde, slash]) (by decide) (by decide) t
  have hplain : bs.expand root.text (tilde :: t) = tilde :: bs.expand root.text t :=
    expand_append (a := [tilde]) (by decide) (by decide) t
  have hreports : bs.unsetReports (tilde :: slash :: t) = bs.unsetReports (tilde :: t) :=
    (unsetReports_append (a := [tilde, slash]) (by decide) t).trans
      (unsetReports_append (a := [tilde]) (by decide) t).symm
  have hanchor : anchor (Environment.ofBindings bs home) .posix root.text
      (bs.expand root.text (tilde :: slash :: t))
        = anchor (Environment.ofBindings bs home) .posix root.text
            (bs.expand root.text (tilde :: t)) := by
    unfold anchor
    rw [hslash, hplain, Anchor.ofText_tilde, Anchor.ofText_tilde, hstrip]
  have hsome : anchor (Environment.ofBindings bs home) .posix root.text
      (bs.expand root.text (tilde :: t))
        = some (posixJoin directory (Flavour.posix.stripLeading (bs.expand root.text t))) := by
    unfold anchor
    rw [hplain, Anchor.ofText_tilde, hhome]
    rfl
  rw [resolve_of_anchor hvalid (hanchor.trans hsome), resolve_of_anchor hvalid hsome, hreports]

end Bindings

/-- **The spellings of an entry agree**, in the path and in what is reported. Below a root that begins
with a slash, `./`, the placeholder of the workspace folder and its form with a dollar sign mean the
same in front of any text; and so does nothing, if the text expands to neither an absolute path nor
one behind a tilde. Behind a tilde, with a home directory, a slash changes nothing. -/
theorem resolve_spellings (bs : Bindings) (home : Option Text) (root : Root) (t : Text)
    (hroot : root.text.startsWith "/" = true) (hvalid : root.text.hasSurrogate = false) :
    let env := Environment.ofBindings bs home
    resolve env .posix root (("./" : Text) ++ t)
        = resolve env .posix root (("\x7bworkspaceFolder\x7d/" : Text) ++ t)
      ∧ resolve env .posix root (("./" : Text) ++ t)
        = resolve env .posix root (("$\x7bworkspaceFolder\x7d/" : Text) ++ t)
      ∧ (∃ expanded, (expand env root.text t).outcome = .ok expanded
        ∧ (expanded.startsWith "/" = false → expanded.startsWith "~" = false →
            resolve env .posix root (("./" : Text) ++ t) = resolve env .posix root t))
      ∧ (home.isSome = true →
        resolve env .posix root (("~" : Text) ++ t)
          = resolve env .posix root (("~/" : Text) ++ t)) := by
  intro env
  have hne : root.text ≠ [] := by
    obtain ⟨rest, hrest⟩ := Text.startsWith_singleton_iff.mp hroot
    rw [hrest]
    exact List.cons_ne_nil _ _
  have hcurrent := Bindings.resolve_current bs home hne hvalid t
  have hfolder := Bindings.resolve_folder bs home hroot hvalid t
  refine ⟨hcurrent.trans hfolder.symm,
    hcurrent.trans ((Bindings.resolve_folder_dollar bs home hvalid t).trans hfolder).symm,
    ⟨bs.expand root.text t, congrArg Logged.outcome (bs.expand_ofBindings home root.text t), ?_⟩,
    ?_⟩
  · intro hslash htilde
    exact hcurrent.trans (Bindings.resolve_relative bs home hne hvalid hslash htilde).symm
  · intro hhome
    obtain ⟨directory, hdirectory⟩ := Option.isSome_iff_exists.mp hhome
    exact (Bindings.resolve_home bs home hvalid hdirectory t).symm

/-- An entry with both kinds of token, doubled slashes and steps up, in each of its spellings. -/
theorem resolve_spellings_of_tokens :
    let env := Environment.ofBindings [("A", "a//.")] (some "/home")
    let entry : Text := "$A/$B/../\x7benv:A\x7d"
    resolve env .posix (Root.ofText "/r/..") (("$\x7bworkspaceFolder\x7d/" : Text) ++ entry)
        = ⟨.ok "/a", [⟨.warning, unsetMessage "B"⟩]⟩
      ∧ resolve env .posix (Root.ofText "/r/..") (("\x7bworkspaceFolder\x7d/" : Text) ++ entry)
        = ⟨.ok "/a", [⟨.warning, unsetMessage "B"⟩]⟩
      ∧ resolve env .posix (Root.ofText "/r/..") entry = ⟨.ok "/a", [⟨.warning, unsetMessage "B"⟩]⟩
      ∧ resolve env .posix (Root.ofText "/r/..") (("~" : Text) ++ entry)
        = resolve env .posix (Root.ofText "/r/..") (("~/" : Text) ++ entry) := by
  have hvalue : resolve (Environment.ofBindings [("A", "a//.")] (some "/home")) .posix
      (Root.ofText "/r/..") (("./" : Text) ++ ("$A/$B/../\x7benv:A\x7d" : Text))
        = ⟨.ok "/a", [⟨.warning, unsetMessage "B"⟩]⟩ := by rfl
  have hentry : (expand (Environment.ofBindings [("A", "a//.")] (some "/home")) "/r/.."
      "$A/$B/../\x7benv:A\x7d").outcome = .ok "a//.//../a//." := by rfl
  obtain ⟨hfolder, hdollar, ⟨expanded, hexpanded, hplain⟩, htilde⟩ :=
    resolve_spellings [("A", "a//.")] (some "/home") (Root.ofText "/r/..")
      "$A/$B/../\x7benv:A\x7d" (by decide) (by decide)
  obtain rfl : ("a//.//../a//." : Text) = expanded := Except.ok.inj (hentry.symm.trans hexpanded)
  exact ⟨hdollar.symm.trans hvalue, hfolder.symm.trans hvalue,
    (hplain rfl rfl).symm.trans hvalue, htilde rfl⟩

end WorkspacePaths
