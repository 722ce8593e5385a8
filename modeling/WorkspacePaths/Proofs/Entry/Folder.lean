import WorkspacePaths.Proofs.Entry.Mentions
import WorkspacePaths.Proofs.Entry.Relative
import WorkspacePaths.Proofs.Entry.Spelling

/-!
# `Proofs.Entry.Folder` — entries for the workspace folder itself

An entry stands for the workspace folder and nothing below it if it is empty, or stays where it is, or
is the placeholder of the folder. It comes out as the normal form of the root. The root itself was
folded before, by a walk from the top, and a normal form is where a path leads from the top: so the two
are the same names behind their slashes. They begin alike if the root has one slash in front. Two are
kept in front of a root and are one in front of a normal form.

## Contents
- **Roots.** `isRootSpelling_cases`, the normal form of a root; `text_of_isRootSpelling`.
- **Entries.** `folderEntries`, `not_mentions_folderEntry`, `anchor_folderEntry`, and
  `resolve_folderEntry`, what they become.
- `normalise_workspaceRoot`: roots and the entries under them; `normalise_workspaceRoot_of_home` at one
  root, `normalise_workspaceRoot_of_two_slashes` at one that is not its own normal form.
-/

namespace WorkspacePaths

variable {root tail entry : Text} {env : Environment} {form : RootForm}

/-! ## Roots -/

/-- The normal form of a root: one slash, and the names down to it. -/
theorem normalise_of_isRootSpelling {lead : Text} {names : List Text} (hlead : IsLead lead)
    (hnames : IsDirectory names) :
    normalise .posix (lead ++ Text.joinWith [slash] names)
      = slash :: Text.joinWith [slash] names := by
  rw [normalise_of_startsWith (hlead.startsWith _), walk_spelling hlead hnames]

/-- A root with one slash in front is its own normal form, one with two has a slash more. -/
theorem isRootSpelling_cases (h : IsRootSpelling root) :
    (root.startsWith "//" = false ∧ normalise .posix root = root)
      ∨ (root.startsWith "//" = true ∧ ("/" : Text) ++ normalise .posix root = root) := by
  obtain ⟨lead, names, hlead, hnames, rfl⟩ := h
  have hnormal := normalise_of_isRootSpelling hlead hnames
  rcases hlead with rfl | rfl
  · left
    refine ⟨?_, hnormal⟩
    -- a second slash would have to come from the first name
    exact hnames.startsWith_joinWith
  · right
    rw [hnormal]
    exact ⟨rfl, rfl⟩

/-- A root is the same in every form in which it may be given. -/
theorem text_of_isRootSpelling (h : IsRootSpelling root) (form : RootForm) :
    Root.text ⟨form, root⟩ = root := by
  cases form with
  | text => rfl
  | lexical => exact toText_ofText_of_isRootSpelling h
  | located => exact toText_ofText_of_isRootSpelling h

/-! ## Entries -/

/-- A tail that leads nowhere keeps the normal form of what it is joined to. -/
theorem normalise_posixJoin_of_stays (hroot : root.startsWith [slash] = true)
    (htail : tail.startsWith [slash] = false) (hstays : ∀ dir, walk dir tail = dir) :
    normalise .posix (posixJoin root tail) = normalise .posix root := by
  have hne : root ≠ [] := by
    rintro rfl
    exact absurd hroot Bool.false_ne_true
  rw [normalise_of_startsWith (posixJoin_startsWith hroot tail), normalise_of_startsWith hroot,
    walk_posixJoin hne htail, hstays]

/-- The entries for the workspace folder: nothing, what stays where it is, and the placeholder. -/
def folderEntries : List Text := ["", ".", "./", folderToken]

theorem dollar_not_mem_folderEntry : ∀ entry ∈ folderEntries, dollar ∉ entry := by decide

/-- The one placeholder in such an entry is that of the folder. -/
theorem mem_placeholderPieces_folderEntry :
    ∀ entry ∈ folderEntries, ∀ piece ∈ placeholderPieces entry,
      piece = .token workspaceFolderKey ∨ piece ∈ entry.map Piece.plain := by decide

/-- Such an entry mentions no variable. -/
theorem not_mentions_folderEntry (hbroken : env.broken = []) (hentry : entry ∈ folderEntries)
    (name : Text) : ¬ Mentions env name entry := by
  have hdollar := dollar_not_mem_folderEntry entry hentry
  have hplain : ∀ key, Piece.token key ∉ entry.map Piece.plain := by
    intro key hkey
    obtain ⟨c, _, heq⟩ := List.mem_map.mp hkey
    exact absurd heq (by simp)
  have htoken : ∀ key, .token key ∉ variablePieces entry := by
    intro key hkey
    rw [← List.append_nil entry, variablePieces_append hdollar] at hkey
    exact hplain key ((List.mem_append.mp hkey).resolve_right List.not_mem_nil)
  rintro (hvariable | ⟨s, key, hs, hkey, href⟩)
  · exact htoken name hvariable
  · -- the placeholders are looked for in the entry itself, as expansion leaves it so far
    have hempty : expandVariables env entry = expandVariables (.ofBindings [] none) entry :=
      expandVariables_congr hbroken (fun other hother => absurd hother (htoken other))
    rw [hempty, Bindings.expandVariables_ofBindings,
      Bindings.expandVariables_of_no_dollar [] hdollar] at hs
    obtain rfl : entry = s := Except.ok.inj hs
    rcases mem_placeholderPieces_folderEntry entry hentry _ hkey with hfolder | hother
    · rw [Piece.token.inj hfolder, show Reference.ofKey workspaceFolderKey = .workspaceFolder from rfl]
        at href
      exact absurd href (by simp)
    · exact hplain key hother

/-- Such an entry is anchored to the root, or to nothing once the root stands in its place; and the root
is where it leads. -/
theorem anchor_folderEntry (bs : Bindings) (hroot : root.startsWith [slash] = true)
    (hentry : entry ∈ folderEntries) :
    ∃ path, anchor env .posix root (bs.expand root entry) = some path
      ∧ normalise .posix path = normalise .posix root := by
  simp only [folderEntries, List.mem_cons, List.not_mem_nil, or_false] at hentry
  rcases hentry with rfl | rfl | rfl | rfl
  · rw [bs.expand_of_no_mark root (by decide) (by decide)]
    exact ⟨posixJoin root [], rfl, normalise_posixJoin_of_stays hroot rfl (fun _ => rfl)⟩
  · rw [bs.expand_of_no_mark root (by decide) (by decide)]
    exact ⟨posixJoin root ".", rfl, normalise_posixJoin_of_stays hroot rfl (fun _ => rfl)⟩
  · rw [bs.expand_of_no_mark root (by decide) (by decide)]
    exact ⟨posixJoin root [], rfl, normalise_posixJoin_of_stays hroot rfl (fun _ => rfl)⟩
  · have hexpand : bs.expand root folderToken = root := by
      unfold Bindings.expand
      rw [bs.expandVariables_of_no_dollar (by decide)]
      have htoken : bs.replacePlaceholders root (openBrace :: workspaceFolderKey ++ closeBrace :: [])
          = root ++ [] :=
        Bindings.replacePlaceholders_token (by decide) (by decide) []
      exact htoken.trans (List.append_nil root)
    obtain ⟨rest, hrest⟩ := Text.startsWith_singleton_iff.mp hroot
    refine ⟨root, ?_, rfl⟩
    rw [hexpand, hrest]
    unfold anchor
    rw [Anchor.ofText_slash]

/-- **Entries for the folder** become the normal form of the root, in every environment. -/
theorem resolve_folderEntry {given : Root} (hroot : given.text.startsWith [slash] = true)
    (hvalid : given.text.hasSurrogate = false) (hbroken : env.broken = [])
    (hentry : entry ∈ folderEntries) :
    resolve env .posix given entry = ⟨.ok (normalise .posix given.text), []⟩ := by
  -- as no variable is mentioned, the environment is as good as an empty table
  have hempty : resolve env .posix given entry
      = resolve (Environment.ofBindings [] env.home) .posix given entry :=
    resolve_congr hbroken
      (fun name hname => absurd hname (not_mentions_folderEntry hbroken hentry name))
      (fun _ _ _ => rfl)
  obtain ⟨path, hanchor, hnormal⟩ := anchor_folderEntry [] hroot hentry
  rw [hempty, Bindings.resolve_of_anchor hvalid hanchor, hnormal,
    Bindings.unsetReports_of_no_dollar [] (dollar_not_mem_folderEntry entry hentry)]

/-- **The two ways to fold agree on roots, but for a second slash in front.** The root that a process
works out is its own normal form if it begins with one slash; if it begins with two, its normal form
has one and is the same behind. And an entry for the workspace folder comes out under a root without
surrogates as the normal form of the root, in whatever form that is given. -/
theorem normalise_workspaceRoot {p : Host} {given : Option Text} (hplaced : p.Placed)
    (hroot : p.workspaceRoot given = some root) :
    (root.startsWith "//" = false → normalise .posix root = root)
      ∧ (root.startsWith "//" = true → ("/" : Text) ++ normalise .posix root = root)
      ∧ (root.hasSurrogate = false →
        ∀ (env : Environment) (form : RootForm), env.broken = [] →
          ∀ entry ∈ (["", ".", "./", "\x7bworkspaceFolder\x7d"] : List Text),
            resolve env .posix ⟨form, root⟩ entry = ⟨.ok (normalise .posix root), []⟩) := by
  have hspelling := isRootSpelling_of_placed hplaced hroot
  refine ⟨?_, ?_, ?_⟩
  · intro hone
    rcases isRootSpelling_cases hspelling with ⟨_, hnormal⟩ | ⟨htwo, _⟩
    · exact hnormal
    · rw [htwo] at hone
      exact absurd hone (by simp)
  · intro htwo
    rcases isRootSpelling_cases hspelling with ⟨hone, _⟩ | ⟨_, hnormal⟩
    · rw [hone] at htwo
      exact absurd htwo (by simp)
    · exact hnormal
  · intro hvalid env form hbroken entry hentry
    have htext := text_of_isRootSpelling hspelling form
    have hstart : (Root.text ⟨form, root⟩).startsWith [slash] = true := by
      rw [htext]
      exact hspelling.startsWith
    have hclean : (Root.text ⟨form, root⟩).hasSurrogate = false := by
      rw [htext]
      exact hvalid
    have hresolve := resolve_folderEntry hstart hclean hbroken hentry
    rw [htext] at hresolve
    exact hresolve

/-- A root below the home directory, which is given with a step up and a slash too many. -/
theorem normalise_workspaceRoot_of_home :
    let p : Host := { bindings := [(Host.homeVariable, "/home//u/")] }
    p.Placed
      ∧ p.workspaceRoot (some "~/x/../ws/") = some "/home/u/ws"
      ∧ normalise .posix "/home/u/ws" = ("/home/u/ws" : Text)
      ∧ resolve p.environment .posix ⟨.located, "/home/u/ws"⟩ "\x7bworkspaceFolder\x7d"
        = ⟨.ok "/home/u/ws", []⟩ := by
  intro p
  have hplaced : p.Placed := ⟨rfl, by decide⟩
  have hroot : p.workspaceRoot (some "~/x/../ws/") = some "/home/u/ws" := by decide +kernel
  obtain ⟨hone, _, hentries⟩ := normalise_workspaceRoot hplaced hroot
  have hnormal := hone (by decide)
  have hfolder := hentries (by decide) p.environment .located rfl "\x7bworkspaceFolder\x7d" (by decide)
  rw [hnormal] at hfolder
  exact ⟨hplaced, hroot, hnormal, hfolder⟩

/-- **A root is not always its own normal form**: one with two slashes in front is not. -/
theorem normalise_workspaceRoot_of_two_slashes :
    ¬ ∀ (p : Host) (given : Option Text) (root : Text), p.Placed →
      p.workspaceRoot given = some root → root.hasSurrogate = false →
      normalise .posix root = root
        ∧ (resolve p.environment .posix ⟨.located, root⟩ "").outcome = .ok root := by
  intro h
  have hroot : Host.workspaceRoot {} (some "//ws") = some "//ws" := by decide
  obtain ⟨hnormal, _⟩ := h {} (some "//ws") "//ws" ⟨rfl, by decide⟩ hroot (by decide)
  exact absurd hnormal (by decide)

end WorkspacePaths
