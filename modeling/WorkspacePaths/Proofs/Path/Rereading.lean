import WorkspacePaths.Proofs.Path.Driveless
import WorkspacePaths.Proofs.Path.Posix
import WorkspacePaths.Proofs.Path.Windows

/-!
# `Proofs.Path.Rereading` — a normal form read as a path again

A normal form is a text, and whoever reads it starts anew: which drive it names is decided once more by
how it begins. Without drives that makes no difference. With them, there are two ways to go wrong. A
share that is not named in full has no end of its own, so it takes the separator of its root into its
name. And where parts at the front of a path on no drive are folded away, a name may come to stand there
that reads as a drive, because its second code point is a colon.

Whatever is found again is read alike, so all depends on the drive (`position_normalise_windows`). A drive
that is read into a name need not matter to the normal form of the normal form, however: the text is cut
at the colon, and comes out as it was unless `.` or `..` is what the cut leaves in front.

## Contents
- **Without drives.** `position_normalise_posix`.
- **Drives found again.** `KeepsDrive`, `splitDrive_normalise_iff`, `position_normalise_windows`.
- **Names read as drives.** `exists_letter`, `normalise_letter_iff`.
- `normalise_keeps_front`: what a normal form keeps of drive and root;
  `normalise_loses_front` at paths where it does not.
- `normalise_normalise_iff`: where normalising is idempotent; `normalise_normalise_ne` where it is not.
-/

namespace WorkspacePaths

open Drive

namespace Flavour

variable {path : Text}

/-! ## Without drives -/

theorem position_normalise_posix (path : Text) :
    posix.position (normalise .posix path) = posix.position path :=
  position_normalise_of_drives_eq_false rfl (by decide) path

/-! ## Drives found again -/

/-- The drive of a path is found again in its normal form: a share is named in full, and if there is no
drive, the normal form does not begin like a drive letter's. -/
def KeepsDrive (path : Text) : Prop :=
  (windows.isShare (Drive.splitDrive path).1 = true → NamesShare (Drive.splitDrive path).1)
    ∧ ((Drive.splitDrive path).1 = [] → (normalise .windows path)[1]? ≠ some colon)

theorem hasRoot_of_isShare (h : windows.isShare path = true) : windows.hasRoot path = true := by
  rw [hasRoot_windows, isShare_splitDrive, h, Bool.true_or]

/-- A share that takes all of the path has a separator put behind it. -/
theorem normalise_of_takesAll (hshare : windows.isShare path = true)
    (h : Drive.splitDrive path = (path, [])) : normalise .windows path = path ++ [backslash] := by
  have hparts : windows.parts path = [[]] := by
    unfold parts
    rw [splitDrive_windows, h]
    rfl
  have hnames : (windows.position path).names = [] := by
    rw [position_eq, hparts]
    rfl
  rw [normalise_windows, trail_windows, hnames, hasRoot_of_isShare hshare, h]
  rfl

theorem splitDrive_normalise_of_keepsDrive (h : KeepsDrive path) :
    Drive.splitDrive (normalise .windows path)
      = ((Drive.splitDrive path).1, (windows.position path).trail windows) := by
  rcases drive_cases path with ⟨hshare, hcolon⟩ | ⟨a, rest, rfl⟩ | hshare
  · have hnone := splitDrive_of_none hshare hcolon
    have hfree := h.2 (by rw [hnone])
    rw [normalise_windows, hnone, List.nil_append] at hfree ⊢
    exact splitDrive_of_none (isShare_trail path) hfree
  · rw [normalise_windows, splitDrive_letter, List.cons_append, List.singleton_append,
      splitDrive_letter]
  · have hdrive := (isShare_splitDrive path).trans hshare
    have hroot := startsAtSlash_trail path
    rw [hasRoot_of_isShare hshare] at hroot
    rw [normalise_windows]
    exact splitDrive_append_of_namesShare hdrive (h.1 hdrive) hroot

/-- Where the drive is not found again, there is a share that takes all of the path, and the separator
behind it as well, or a name that reads as a drive. -/
theorem takesAll_or_colon (h : ¬ KeepsDrive path) :
    (windows.isShare path = true ∧ ¬ NamesShare (Drive.splitDrive path).1
        ∧ Drive.splitDrive path = (path, [])
        ∧ Drive.splitDrive (path ++ [backslash]) = (path ++ [backslash], []))
      ∨ ((Drive.splitDrive path).1 = [] ∧ (normalise .windows path)[1]? = some colon) := by
  unfold KeepsDrive at h
  by_cases hshare : windows.isShare (Drive.splitDrive path).1 = true
  · by_cases hnames : NamesShare (Drive.splitDrive path).1
    · -- a share is a drive, so no name can be read as one
      refine absurd ⟨fun _ => hnames, fun hnone => ?_⟩ h
      rw [hnone] at hshare
      exact absurd hshare Bool.false_ne_true
    · have hpath := (isShare_splitDrive path).symm.trans hshare
      exact Or.inl ⟨hpath, hnames, (namesShare_or_takesAll hpath).resolve_left hnames⟩
  · right
    refine Classical.byContradiction (fun hfree => h ⟨fun hdrive => absurd hdrive hshare, ?_⟩)
    exact fun hnone hcolon => hfree ⟨hnone, hcolon⟩

/-- **A normal form leads to the position that it was written from** if it names the drive of the path
again. -/
theorem position_normalise_windows (h : KeepsDrive path) :
    windows.position (normalise .windows path) = windows.position path := by
  have hsplit := splitDrive_normalise_of_keepsDrive h
  have hroot : windows.hasRoot (normalise .windows path) = (windows.position path).rooted := by
    rw [hasRoot_windows, hsplit, startsAtSlash_trail, position_rooted, hasRoot_windows,
      ← Bool.or_assoc, Bool.or_self]
  refine position_render (show windows.separator = [backslash] from rfl)
    (windows.folded_position path) ?_ ?_ hroot (unifySeparators_of_not_mem (slash_not_mem_trail path))
  · intro name hname hmem
    exact absurd (unbroken_of_mem_names hname _ hmem) (by decide)
  · rw [position_drive]
    exact hsplit

/-! ## Names read as drives -/

/-- A separator that is written before each name is none that a name could hold. -/
theorem getElem?_joinWith_ne_colon (a : CodePoint) (names : List Text) :
    (Text.joinWith [backslash] ([a] :: names))[1]? ≠ some colon := by
  rw [Text.joinWith_cons_flatMap]
  cases names with
  | nil => simp
  | cons name rest => simp

/-- A colon at the front of joined names belongs to the first of them. -/
theorem exists_of_colon_first {names : List Text} (hnames : ∀ name ∈ names, name ≠ [])
    (h : (Text.joinWith [backslash] names)[0]? = some colon) :
    ∃ front rest, names = (colon :: front) :: rest := by
  match names, hnames, h with
  | [] :: rest, hnames, _ => exact absurd rfl (hnames [] List.mem_cons_self)
  | (c :: front) :: rest, _, h =>
    rw [Text.joinWith_cons_flatMap] at h
    obtain rfl : c = colon := Option.some.inj h
    exact ⟨front, rest, rfl⟩

/-- A colon in second place of joined names belongs to the first of them. -/
theorem exists_of_colon_second {names : List Text} (hnames : ∀ name ∈ names, name ≠ [])
    (h : (Text.joinWith [backslash] names)[1]? = some colon) :
    ∃ a front rest, names = (a :: colon :: front) :: rest := by
  match names, hnames, h with
  | [] :: rest, hnames, _ => exact absurd rfl (hnames [] List.mem_cons_self)
  | [a] :: rest, _, h => exact absurd h (getElem?_joinWith_ne_colon a rest)
  | (a :: c :: front) :: rest, _, h =>
    rw [Text.joinWith_cons_flatMap] at h
    obtain rfl : c = colon := Option.some.inj h
    exact ⟨a, front, rest, rfl⟩

/-- Where a colon stands in the first name of a position, no name is a step up. -/
theorem isName_of_colon_mem (lead : Text) {front : Text} {rest : List Text}
    (h : (windows.position path).names.reverse = (lead ++ front) :: rest) (hcolon : colon ∈ lead) :
    Unbroken front ∧ ∀ name ∈ rest, IsName name ∧ Unbroken name := by
  have hunbroken : ∀ name ∈ (lead ++ front) :: rest, Unbroken name := by
    intro name hname
    rw [← h] at hname
    exact (mem_reverse_names_windows hname).2
  have hfirst : lead ++ front ≠ Position.up := by
    intro heq
    have hin : colon ∈ Position.up := heq ▸ List.mem_append_left _ hcolon
    exact absurd hin (by decide)
  refine ⟨(hunbroken _ List.mem_cons_self).of_append, fun name hname => ⟨?_, ?_⟩⟩
  · exact (windows.folded_position path).isName_of_mem_behind h hfirst name hname
  · exact hunbroken name (List.mem_cons_of_mem _ hname)

/-- What begins like a drive letter's path, where the normal form of a path on no drive does: behind the
colon stands what is left of the first name, and then the other names. -/
theorem exists_letter (hnone : (Drive.splitDrive path).1 = [])
    (hcolon : (normalise .windows path)[1]? = some colon) :
    ∃ a front names, normalise .windows path
        = a :: colon :: Text.joinWith [backslash] (front :: names)
      ∧ Unbroken front ∧ ∀ name ∈ names, IsName name ∧ Unbroken name := by
  have hne : ∀ name ∈ (windows.position path).names.reverse, name ≠ [] :=
    fun _ hname => (mem_reverse_names_windows hname).1
  rw [normalise_windows, hnone, List.nil_append, trail_windows] at hcolon ⊢
  by_cases hroot : windows.hasRoot path = true
  · rw [if_pos hroot, List.singleton_append] at hcolon ⊢
    obtain ⟨front, rest, hnames⟩ := exists_of_colon_first hne hcolon
    obtain ⟨hfront, hrest⟩ := isName_of_colon_mem [colon] hnames (by simp)
    refine ⟨backslash, front, rest, ?_, hfront, hrest⟩
    rw [hnames, Text.joinWith_cons_flatMap, Text.joinWith_cons_flatMap]
    rfl
  · rw [if_neg hroot, List.nil_append] at hcolon ⊢
    obtain ⟨a, front, rest, hnames⟩ := exists_of_colon_second hne hcolon
    obtain ⟨hfront, hrest⟩ := isName_of_colon_mem [a, colon] hnames (by simp)
    refine ⟨a, front, rest, ?_, hfront, hrest⟩
    rw [hnames, Text.joinWith_cons_flatMap, Text.joinWith_cons_flatMap]
    rfl

variable {a : CodePoint} {front : Text} {names : List Text}

/-- The position that such a text leads to when it is read: on the drive that it begins with, rooted if
nothing of the first name is left and there are further names. -/
theorem position_letter (hfront : Unbroken front)
    (hnames : ∀ name ∈ names, IsName name ∧ Unbroken name) :
    windows.position (a :: colon :: Text.joinWith [backslash] (front :: names))
      = (front :: names).foldl Position.readPart
          ⟨[a, colon], startsAtSlash (Text.joinWith [backslash] (front :: names)), []⟩ := by
  have hparts : ∀ part ∈ front :: names, Unbroken part := by
    intro part hpart
    rcases List.mem_cons.mp hpart with rfl | hin
    · exact hfront
    · exact (hnames part hin).2
  rw [position_of_letter (splitDrive_letter a _), pieces_joinWith (List.cons_ne_nil _ _) hparts]

theorem startsAtSlash_joinWith_cons (hne : front ≠ []) (hfront : Unbroken front) :
    startsAtSlash (Text.joinWith [backslash] (front :: names)) = false := by
  rw [Text.joinWith_cons_flatMap, startsAtSlash_append hne, hfront.startsAtSlash]

/-- Joined names are shorter without one of them. -/
theorem joinWith_ne_of_ne_nil (hne : front ≠ []) :
    Text.joinWith [backslash] names ≠ Text.joinWith [backslash] (front :: names) := by
  intro heq
  have hlength := congrArg List.length heq
  have hpos := List.length_pos_iff.mpr hne
  rw [Text.joinWith_cons_flatMap, List.length_append] at hlength
  cases names with
  | nil =>
    rw [List.flatMap_nil, show Text.joinWith [backslash] [] = [] from rfl, List.length_nil] at hlength
    omega
  | cons name rest =>
    rw [Text.joinWith_cons_flatMap, List.flatMap_cons, List.length_append, List.length_append,
      List.length_append, List.length_singleton] at hlength
    omega

/-- If what is left of the first name goes away, the other names stand behind the colon. -/
theorem normalise_letter_of_readPart (hfront : Unbroken front)
    (hnames : ∀ name ∈ names, IsName name ∧ Unbroken name)
    (hgone : ∀ q : Position, q.Anchored → q.names = [] → q.readPart front = q) :
    normalise .windows (a :: colon :: Text.joinWith [backslash] (front :: names))
      = a :: colon ::
          ((if startsAtSlash (Text.joinWith [backslash] (front :: names)) then [backslash] else [])
            ++ Text.joinWith [backslash] names) := by
  have hanchored : ∀ rooted, Position.Anchored ⟨[a, colon], rooted, []⟩ :=
    fun _ => Or.inr (List.cons_ne_nil _ _)
  unfold normalise
  rw [position_letter hfront hnames, List.foldl_cons, hgone _ (hanchored _) rfl,
    Position.foldl_readPart_names (fun name hname => (hnames name hname).1), Position.render_eq]
  unfold Position.trail
  rw [List.append_nil, List.reverse_reverse]
  rfl

/-- **Cut at the colon, such a text comes out as it was** unless what the cut leaves of the first name
is `.` or `..`, which goes away. -/
theorem normalise_letter_iff (hfront : Unbroken front)
    (hnames : ∀ name ∈ names, IsName name ∧ Unbroken name) :
    normalise .windows (a :: colon :: Text.joinWith [backslash] (front :: names))
        = a :: colon :: Text.joinWith [backslash] (front :: names)
      ↔ front ≠ ("." : Text) ∧ front ≠ Position.up := by
  rcases part_cases front with rfl | rfl | rfl | hname
  · -- nothing is left: the separator before the next name becomes that of a root
    refine iff_of_true ?_ (by decide)
    rw [normalise_letter_of_readPart hfront hnames (fun _ _ _ => rfl)]
    cases names with
    | nil => rfl
    | cons name rest =>
      rw [Text.joinWith_cons (List.cons_ne_nil _ _), List.nil_append]
      rfl
  · refine iff_of_false ?_ (fun h => h.1 rfl)
    have hne : (("." : String) : Text) ≠ [] := by decide
    rw [normalise_letter_of_readPart hfront hnames (fun _ _ _ => rfl),
      startsAtSlash_joinWith_cons hne hfront]
    simpa using joinWith_ne_of_ne_nil hne
  · refine iff_of_false ?_ (fun h => h.2 rfl)
    have hne : Position.up ≠ [] := by decide
    have hgone : ∀ q : Position, q.Anchored → q.names = [] → q.readPart Position.up = q := by
      intro q hanchored hempty
      rw [Position.readPart_up, Position.goUp_of_nil hempty, Position.keepUp_of_anchored hanchored]
    rw [normalise_letter_of_readPart hfront hnames hgone, startsAtSlash_joinWith_cons hne hfront]
    simpa using joinWith_ne_of_ne_nil hne
  · refine iff_of_true ?_ ⟨hname.ne_current, hname.ne_up⟩
    have hall : ∀ part ∈ front :: names, IsName part := by
      intro part hpart
      rcases List.mem_cons.mp hpart with rfl | hin
      · exact hname
      · exact (hnames part hin).1
    unfold normalise
    rw [position_letter hfront hnames, Position.foldl_readPart_names hall, Position.render_eq,
      startsAtSlash_joinWith_cons hname.ne_nil hfront]
    unfold Position.trail
    rw [List.append_nil, List.reverse_reverse]
    rfl

end Flavour

/-! ## What normal forms keep -/

open Flavour

variable {path : Text}

/-- **The drive of a path is found again** in its normal form under this condition and no other. -/
theorem splitDrive_normalise_iff :
    (Drive.splitDrive (normalise .windows path)).1 = (Drive.splitDrive path).1 ↔ KeepsDrive path := by
  constructor
  · intro hsame
    refine Classical.byContradiction (fun hlost => ?_)
    rcases takesAll_or_colon hlost with ⟨hshare, _, hall, hmore⟩ | ⟨hnone, hcolon⟩
    · rw [normalise_of_takesAll hshare hall, hmore, hall] at hsame
      exact absurd hsame (by simp)
    · obtain ⟨a, front, names, heq, _, _⟩ := exists_letter hnone hcolon
      rw [heq, splitDrive_letter, hnone] at hsame
      exact absurd hsame (List.cons_ne_nil _ _)
  · intro h
    rw [splitDrive_normalise_of_keepsDrive h]

theorem isAbsolute_windows (t : Text) :
    windows.isAbsolute t = (windows.hasRoot t && !(Drive.splitDrive t).1.isEmpty) := rfl

theorem isAbsolute_of_isShare {t : Text} (h : windows.isShare t = true) :
    windows.isAbsolute t = true := by
  have hdrive : (Drive.splitDrive t).1 ≠ [] := by
    intro hnone
    have hshare := (isShare_splitDrive t).trans h
    rw [hnone] at hshare
    exact absurd hshare Bool.false_ne_true
  rw [isAbsolute_windows, hasRoot_of_isShare h, Bool.true_and, Bool.not_eq_true',
    List.isEmpty_eq_false_iff]
  exact hdrive

/-- The text reads as the path to the top of a letter's drive, or to what lies below it. -/
def OpensAtTop (t : Text) : Prop := t[1]? = some colon ∧ startsAtSlash (t.drop 2) = true

/-- Begins like a letter's path, with `.` or `..` right behind the colon. -/
def OpensOnDots (t : Text) : Prop :=
  t[1]? = some colon
    ∧ ((t.drop 2).takeWhile (fun c => !isSlash c) = ("." : Text)
      ∨ (t.drop 2).takeWhile (fun c => !isSlash c) = (".." : Text))

variable {a : CodePoint} {front : Text} {names : List Text}

theorem opensAtTop_letter_iff {rest : Text} :
    OpensAtTop (a :: colon :: rest) ↔ startsAtSlash rest = true :=
  and_iff_right rfl

theorem isAbsolute_letter (a : CodePoint) (rest : Text) :
    windows.isAbsolute (a :: colon :: rest) = startsAtSlash rest := by
  rw [isAbsolute_windows, hasRoot_windows, splitDrive_letter, isShare_letter, Bool.false_or]
  exact Bool.and_true _

theorem opensOnDots_letter_iff (hfront : Unbroken front) :
    OpensOnDots (a :: colon :: Text.joinWith [backslash] (front :: names))
      ↔ front = ("." : Text) ∨ front = Position.up := by
  have hbehind : names.flatMap (fun name => [backslash] ++ name) = []
      ∨ startsAtSlash (names.flatMap (fun name => [backslash] ++ name)) = true := by
    cases names with
    | nil => exact Or.inl rfl
    | cons name rest => exact Or.inr rfl
  have htake : (Text.joinWith [backslash] (front :: names)).takeWhile (fun c => !isSlash c) = front := by
    rw [Text.joinWith_cons_flatMap, takeWhile_unbroken hfront hbehind]
  unfold OpensOnDots
  rw [List.drop_succ_cons, List.drop_succ_cons, List.drop_zero, htake]
  exact and_iff_right rfl

/-- A normal form is absolute exactly if its path is, unless the path lies on no drive and its normal
form reads as a path from the top of one. -/
theorem isAbsolute_normalise_windows_iff (path : Text) :
    windows.isAbsolute (normalise .windows path) = windows.isAbsolute path
      ↔ ¬ ((Drive.splitDrive path).1 = [] ∧ OpensAtTop (normalise .windows path)) := by
  by_cases hkeeps : KeepsDrive path
  · refine iff_of_true ?_ (fun h => hkeeps.2 h.1 h.2.1)
    rw [isAbsolute_windows, isAbsolute_windows, splitDrive_normalise_of_keepsDrive hkeeps,
      ← position_rooted, ← position_rooted, position_normalise_windows hkeeps]
  · rcases takesAll_or_colon hkeeps with ⟨hshare, _, hall, _⟩ | ⟨hnone, hcolon⟩
    · -- a share is absolute, whatever it takes into its name
      refine iff_of_true ?_ (fun h => ?_)
      · rw [isAbsolute_of_isShare hshare, normalise_of_takesAll hshare hall,
          isAbsolute_of_isShare (isShare_append hshare _)]
      · rw [hall] at h
        obtain rfl : path = [] := h.1
        exact absurd hshare Bool.false_ne_true
    · obtain ⟨a, front, names, heq, _, _⟩ := exists_letter hnone hcolon
      have hpath : windows.isAbsolute path = false := by
        rw [isAbsolute_windows, hnone]
        exact Bool.and_false _
      rw [hpath, heq, isAbsolute_letter, opensAtTop_letter_iff, and_iff_right hnone,
        Bool.not_eq_true]

/-- **What a normal form keeps of drive and root.** Without drives it keeps both, so it is absolute
exactly if its path is. With drives it keeps both exactly if the drive is found again: a share must be
named in full, and the normal form of a path on no drive must not begin like a letter's. Even where it
does not, it is absolute exactly if its path is, unless the path lies on no drive and its normal form
reads as a path from the top of one. -/
theorem normalise_keeps_front (path : Text) :
    ((posix.splitDrive (normalise .posix path)).1 = (posix.splitDrive path).1
      ∧ posix.hasRoot (normalise .posix path) = posix.hasRoot path
      ∧ posix.isAbsolute (normalise .posix path) = posix.isAbsolute path)
    ∧ ((windows.splitDrive (normalise .windows path)).1 = (windows.splitDrive path).1
        ∧ windows.hasRoot (normalise .windows path) = windows.hasRoot path
      ↔ (windows.isShare (windows.splitDrive path).1 = true →
          NamesShare (windows.splitDrive path).1)
        ∧ ((windows.splitDrive path).1 = [] → (normalise .windows path)[1]? ≠ some colon))
    ∧ (windows.isAbsolute (normalise .windows path) = windows.isAbsolute path
      ↔ ¬ ((windows.splitDrive path).1 = [] ∧ OpensAtTop (normalise .windows path))) := by
  have hposix : posix.hasRoot (normalise .posix path) = posix.hasRoot path := by
    rw [← position_rooted, ← position_rooted, position_normalise_posix]
  refine ⟨⟨rfl, hposix, ?_⟩, ?_, isAbsolute_normalise_windows_iff path⟩
  · unfold isAbsolute
    rw [hposix]
    rfl
  · constructor
    · intro h
      exact splitDrive_normalise_iff.mp h.1
    · intro h
      have hkeeps : KeepsDrive path := h
      refine ⟨splitDrive_normalise_iff.mpr hkeeps, ?_⟩
      rw [← position_rooted, ← position_rooted, position_normalise_windows hkeeps]

/-- **Neither is always kept**: a path that is relative to the current directory may become one from the
top of a drive, and the separator behind a server's name may become part of the share. -/
theorem normalise_loses_front :
    (windows.isAbsolute ".\\c:\\x" = false ∧ windows.isAbsolute (normalise .windows ".\\c:\\x") = true)
    ∧ (windows.splitDrive (normalise .windows "\\\\server")).1
        ≠ (windows.splitDrive "\\\\server").1 := by
  decide

/-- **Where normalising is idempotent.** A path has a normal form that is its own exactly if a share is
named in full, and the normal form of a path on no drive does not begin like a letter's path with `.` or
`..` right behind the colon. -/
theorem normalise_normalise_iff (path : Text) :
    normalise .windows (normalise .windows path) = normalise .windows path
      ↔ (windows.isShare (windows.splitDrive path).1 = true →
          NamesShare (windows.splitDrive path).1)
        ∧ ((windows.splitDrive path).1 = [] → ¬ OpensOnDots (normalise .windows path)) := by
  by_cases hkeeps : KeepsDrive path
  · refine iff_of_true ?_ ⟨hkeeps.1, fun hnone hdots => hkeeps.2 hnone hdots.1⟩
    show (windows.position (normalise .windows path)).render windows = _
    rw [position_normalise_windows hkeeps]
    rfl
  · rcases takesAll_or_colon hkeeps with ⟨hshare, hnames, hall, hmore⟩ | ⟨hnone, hcolon⟩
    · -- the share takes in one separator after another
      have hdrive := (isShare_splitDrive path).trans hshare
      refine iff_of_false ?_ (fun h => hnames (h.1 hdrive))
      rw [normalise_of_takesAll hshare hall,
        normalise_of_takesAll (isShare_append hshare _) hmore]
      simp
    · obtain ⟨a, front, names, heq, hfront, hrest⟩ := exists_letter hnone hcolon
      have hshare : windows.isShare (windows.splitDrive path).1 ≠ true := by
        rw [splitDrive_windows, hnone]
        exact Bool.false_ne_true
      rw [heq, normalise_letter_iff hfront hrest, opensOnDots_letter_iff hfront, not_or,
        splitDrive_windows, hnone]
      exact ⟨fun h => ⟨fun hdrive => absurd hdrive Bool.false_ne_true, fun _ => h⟩, fun h => h.2 rfl⟩

/-- **Not every normal form is its own**: with each further time a server's name gets a separator more,
and a dot that came to stand behind a colon goes away. -/
theorem normalise_normalise_ne :
    normalise .windows (normalise .windows "\\\\server") ≠ normalise .windows "\\\\server"
    ∧ normalise .windows (normalise .windows ".\\c:.\\x") ≠ normalise .windows ".\\c:.\\x" := by
  decide

end WorkspacePaths
