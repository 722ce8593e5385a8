import WorkspacePaths.Proofs.Path.Rereading

/-!
# `Proofs.Path.Joining` — the drive that a joined path lies on

Where there are drives, a tail seen from a base either stays on the drive of the base or leaves it for
its own. It stays if it names no drive, or the same one, perhaps in another case; then the path of the
base stands before it, or the root of that drive if the tail is rooted. It leaves if it is rooted on a
drive of its own, which makes it absolute, or if it lies on another drive without a root there. So there
is one way only in which a tail behind an absolute base comes to depend on a current directory.

That two drives are one in spite of their case is decided by lower-casing, which may lengthen a text. A
letter's drive and a share are kept apart all the same, by their second code points.

## Contents
- **Case.** `lower_letter_ne_lower_share`.
- **Joining.** `LeavesBase`, and the three ways to join: `joinParts_of_startsAtSlash`,
  `joinParts_of_leavesBase`, `joinParts_of_not_leavesBase`. By the drive that a tail names:
  `joinParts_of_same_drive`, `fst_joinParts`.
- **What joining leads to.** `splitDrive_driveJoin`, the drive; `isAbsolute_driveJoin` for a tail that
  stays, `driveJoin_of_leavesBase` for one that leaves, and `isAbsolute_normalise_driveJoin_iff` for the
  normal form of either.
-/

namespace WorkspacePaths

open Drive Flavour

namespace Drive

variable {c : CodePoint} {base tail share drive path : Text}

/-! ## Case -/

/-- A code point has one code point as its lower-case form, or an `i` and a dot above it. -/
theorem lower_cases (c : CodePoint) :
    c.lower = [CodePoint.scalar 'i', CodePoint.scalar '\u0307'] ∨ ∃ d, c.lower = [d] := by
  unfold CodePoint.lower
  split
  · exact Or.inl rfl
  · split <;> exact Or.inr ⟨_, rfl⟩

theorem lower_of_isSlash (h : isSlash c = true) : c.lower = [c] := by
  rcases eq_of_isSlash h with rfl | rfl
  · decide
  · decide

/-- Behind a lower-cased letter stands no separator, but the colon or a dot above. -/
theorem exists_lower_letter (a : CodePoint) :
    ∃ first second rest, Text.lower [a, colon] = first :: second :: rest ∧ isSlash second = false := by
  have hcolon : ∀ afterCased, Text.lowerFrom afterCased [colon] = [colon] := by decide
  unfold Text.lower
  rw [Text.lowerFrom, hcolon]
  split
  · exact ⟨_, _, _, rfl, rfl⟩
  · rcases lower_cases a with hdotted | ⟨d, hone⟩
    · rw [hdotted]
      exact ⟨_, _, _, rfl, rfl⟩
    · rw [hone]
      exact ⟨_, _, _, rfl, rfl⟩

/-- A lower-cased share still begins with two separators. -/
theorem exists_lower_share (h : windows.isShare share = true) :
    ∃ first second rest, Text.lower share = first :: second :: rest ∧ isSlash second = true := by
  have hsigma : ∀ d, isSlash d = true → d ≠ CodePoint.scalar 'Σ' := by
    rintro d hd rfl
    exact absurd hd (by decide)
  match share, h with
  | a :: b :: rest, h =>
    rw [isShare_windows, Bool.and_eq_true] at h
    unfold Text.lower
    rw [Text.lowerFrom, Text.lowerFrom]
    rw [if_neg (hsigma a h.1), if_neg (hsigma b h.2), lower_of_isSlash h.1, lower_of_isSlash h.2]
    exact ⟨a, b, _, rfl, h.2⟩

/-- **A letter's drive is no share in another case.** -/
theorem lower_letter_ne_lower_share (a : CodePoint) (h : windows.isShare share = true) :
    Text.lower [a, colon] ≠ Text.lower share := by
  obtain ⟨_, second, _, hletter, hplain⟩ := exists_lower_letter a
  obtain ⟨_, second', _, hshare, hslash⟩ := exists_lower_share h
  intro heq
  rw [hletter, hshare, List.cons.injEq, List.cons.injEq] at heq
  rw [heq.2.1, hslash] at hplain
  exact absurd hplain (by decide)

/-! ## Joining -/

/-- The tail lies on a drive of its own, and with no root there: it names a drive with no separator
right behind it, which is not the drive of the base, not even in another case. -/
def LeavesBase (base tail : Text) : Prop :=
  (splitDrive tail).1 ≠ [] ∧ startsAtSlash (splitDrive tail).2 = false
    ∧ Text.lower (splitDrive tail).1 ≠ Text.lower (splitDrive base).1

instance (base tail : Text) : Decidable (LeavesBase base tail) :=
  inferInstanceAs (Decidable (_ ∧ _ ∧ _))

example : LeavesBase "C:\\a" "d:b" := by decide

example : ¬ LeavesBase "C:\\a" "c:b" := by decide

/-- A rooted tail stands on its own drive, or on that of the base if it names none. -/
theorem joinParts_of_startsAtSlash (hbase : (splitDrive base).1 ≠ [])
    (hroot : startsAtSlash (splitDrive tail).2 = true) :
    joinParts (splitDrive base) (splitDrive tail)
      = (if (splitDrive tail).1 = [] then (splitDrive base).1 else (splitDrive tail).1,
          (splitDrive tail).2) := by
  unfold joinParts
  rw [if_pos hroot]
  by_cases hdrive : (splitDrive tail).1 = []
  · rw [if_pos hdrive, if_neg (by simp [hdrive, hbase])]
  · rw [if_neg hdrive, if_pos (by simp [hdrive])]

/-- A tail that leaves the base stands alone. -/
theorem joinParts_of_leavesBase (h : LeavesBase base tail) :
    joinParts (splitDrive base) (splitDrive tail) = splitDrive tail := by
  obtain ⟨hdrive, hroot, hcase⟩ := h
  have hne : (splitDrive tail).1 ≠ (splitDrive base).1 := fun heq => hcase (congrArg Text.lower heq)
  unfold joinParts
  rw [if_neg (by simp [hroot]), if_pos (by simp [hdrive, hne]), if_pos hcase]

/-- A tail that is not rooted and does not leave the base stands behind the path of the base. The drive
is that of the base, or the same as the tail spells it. -/
theorem joinParts_of_not_leavesBase (hroot : startsAtSlash (splitDrive tail).2 = false)
    (h : ¬ LeavesBase base tail) :
    ∃ drive, joinParts (splitDrive base) (splitDrive tail)
        = (drive, closed (splitDrive base).2 ++ (splitDrive tail).2)
      ∧ ((drive = (splitDrive base).1 ∧ (splitDrive tail).1 = [])
        ∨ (drive = (splitDrive tail).1 ∧ drive ≠ []
          ∧ Text.lower drive = Text.lower (splitDrive base).1)) := by
  unfold joinParts
  rw [if_neg (by simp [hroot])]
  by_cases hnone : (splitDrive tail).1 = []
  · rw [if_neg (by simp [hnone])]
    exact ⟨_, rfl, Or.inl ⟨rfl, hnone⟩⟩
  · have hcase : Text.lower (splitDrive tail).1 = Text.lower (splitDrive base).1 :=
      Decidable.byContradiction (fun hcase => h ⟨hnone, hroot, hcase⟩)
    refine ⟨(splitDrive tail).1, ?_, Or.inr ⟨rfl, hnone, hcase⟩⟩
    by_cases hsame : (splitDrive tail).1 = (splitDrive base).1
    · rw [if_neg (by simp [hsame]), hsame]
    · rw [if_pos (by simp [hnone, hsame]), if_neg (by simp [hcase])]

/-- A tail that names no drive, or the very one of the base, stays on it: behind the path of the base, or
alone if it is rooted. -/
theorem joinParts_of_same_drive (hbase : (splitDrive base).1 ≠ [])
    (h : (splitDrive tail).1 = [] ∨ (splitDrive tail).1 = (splitDrive base).1) :
    joinParts (splitDrive base) (splitDrive tail)
      = ((splitDrive base).1,
          if startsAtSlash (splitDrive tail).2 then (splitDrive tail).2
          else closed (splitDrive base).2 ++ (splitDrive tail).2) := by
  by_cases hroot : startsAtSlash (splitDrive tail).2 = true
  · rw [joinParts_of_startsAtSlash hbase hroot, if_pos hroot]
    split
    · rfl
    · next hne => rw [h.resolve_left hne]
  · unfold joinParts
    rw [if_neg hroot, if_neg hroot, if_neg]
    rcases h with hnone | hsame
    · simp [hnone]
    · simp [hsame]

/-- The drive that a tail names is that of the joined path. -/
theorem fst_joinParts (h : (splitDrive tail).1 ≠ []) :
    (joinParts (splitDrive base) (splitDrive tail)).1 = (splitDrive tail).1 := by
  unfold joinParts
  split
  · exact if_pos (by simp [h])
  · split
    · split <;> rfl
    · next hsame =>
      have heq : (splitDrive tail).1 = (splitDrive base).1 := by simpa [h] using hsame
      exact heq.symm

/-! ## Writing -/

/-- Behind a letter's drive its path is written as it is. -/
theorem render_letter (a : CodePoint) (path : Text) : render ([a, colon], path) = a :: colon :: path := by
  unfold render
  exact if_neg (by simp)

theorem render_of_startsAtSlash (h : startsAtSlash path = true) :
    render (drive, path) = drive ++ path := by
  unfold render
  exact if_neg (by simp [h])

/-- A drive stays in front of what is written behind it. -/
theorem exists_render (drive path : Text) : ∃ rest, render (drive, path) = drive ++ rest := by
  unfold render
  split
  · exact ⟨("\\" : Text) ++ path, List.append_assoc _ _ _⟩
  · exact ⟨path, rfl⟩

theorem startsAtSlash_closed_append (h : startsAtSlash path = true) (t : Text) :
    startsAtSlash (closed path ++ t) = true := by
  have hne : path ≠ [] := by
    rintro rfl
    exact absurd h Bool.false_ne_true
  unfold closed
  split
  · rw [startsAtSlash_append hne, h]
  · rw [List.append_assoc, startsAtSlash_append hne, h]

end Drive

/-! ## Joined paths -/

variable {base tail drive path t : Text}

/-- A drive that is named is a letter's or a share. -/
theorem letter_or_share (h : (Drive.splitDrive t).1 ≠ []) :
    (∃ a, (Drive.splitDrive t).1 = [a, colon]) ∨ windows.isShare (Drive.splitDrive t).1 = true := by
  rcases drive_cases t with ⟨hshare, hcolon⟩ | ⟨a, rest, rfl⟩ | hshare
  · exact absurd (congrArg Prod.fst (splitDrive_of_none hshare hcolon)) h
  · exact Or.inl ⟨a, congrArg Prod.fst (splitDrive_letter a rest)⟩
  · exact Or.inr ((isShare_splitDrive t).trans hshare)

theorem splitDrive_ne_nil_of_isAbsolute (h : windows.isAbsolute path = true) :
    (Drive.splitDrive path).1 ≠ [] := by
  rw [isAbsolute_windows, Bool.and_eq_true, Bool.not_eq_true', List.isEmpty_eq_false_iff] at h
  exact h.2

/-- An absolute path lies on a share, or at the top of a letter's drive or below it. -/
theorem isAbsolute_cases (h : windows.isAbsolute path = true) :
    windows.isShare (Drive.splitDrive path).1 = true
      ∨ (∃ a, (Drive.splitDrive path).1 = [a, colon])
        ∧ startsAtSlash (Drive.splitDrive path).2 = true := by
  rcases letter_or_share (splitDrive_ne_nil_of_isAbsolute h) with ⟨a, ha⟩ | hshare
  · rw [isAbsolute_windows, hasRoot_windows, ha, isShare_letter, Bool.false_or, Bool.and_eq_true] at h
    exact Or.inr ⟨⟨a, ha⟩, h.1⟩
  · exact Or.inl hshare

/-- A rooted path behind a drive is absolute. -/
theorem isAbsolute_drive_append
    (hdrive : (∃ a, drive = [a, colon]) ∨ windows.isShare drive = true)
    (hpath : startsAtSlash path = true) : windows.isAbsolute (drive ++ path) = true := by
  rcases hdrive with ⟨a, rfl⟩ | hshare
  · exact (isAbsolute_letter a path).trans hpath
  · exact isAbsolute_of_isShare (isShare_append hshare path)

/-- **A joined path is absolute** if the base is and the tail does not leave it. -/
theorem isAbsolute_driveJoin (hbase : windows.isAbsolute base = true)
    (h : ¬ LeavesBase base tail) : windows.isAbsolute (driveJoin base tail) = true := by
  have hnamed := splitDrive_ne_nil_of_isAbsolute hbase
  unfold driveJoin
  by_cases hroot : startsAtSlash (Drive.splitDrive tail).2 = true
  · rw [joinParts_of_startsAtSlash hnamed hroot, render_of_startsAtSlash hroot]
    refine isAbsolute_drive_append ?_ hroot
    split
    · exact letter_or_share hnamed
    · next hdrive => exact letter_or_share hdrive
  · rw [Bool.not_eq_true] at hroot
    obtain ⟨drive, hjoined, hdrive⟩ := joinParts_of_not_leavesBase hroot h
    have hkind : (∃ a, drive = [a, colon]) ∨ windows.isShare drive = true := by
      rcases hdrive with ⟨rfl, _⟩ | ⟨rfl, hne, _⟩
      · exact letter_or_share hnamed
      · exact letter_or_share hne
    rw [hjoined]
    rcases isAbsolute_cases hbase with hshare | ⟨_, htop⟩
    · -- the drive of the base has no root of its own to give, but a letter's drive is not the same
      have hdriveShare : windows.isShare drive = true := by
        refine hkind.resolve_left ?_
        rintro ⟨a, rfl⟩
        rcases hdrive with ⟨hsame, _⟩ | ⟨_, _, hcase⟩
        · rw [← hsame, isShare_letter] at hshare
          exact absurd hshare Bool.false_ne_true
        · exact lower_letter_ne_lower_share a hshare hcase
      obtain ⟨rest, hrender⟩ := exists_render drive
        (closed (Drive.splitDrive base).2 ++ (Drive.splitDrive tail).2)
      rw [hrender]
      exact isAbsolute_of_isShare (isShare_append hdriveShare rest)
    · have hpath := startsAtSlash_closed_append htop (Drive.splitDrive tail).2
      rw [render_of_startsAtSlash hpath]
      exact isAbsolute_drive_append hkind hpath

/-- A tail that leaves the base, and lies on no share, is what the joined path comes to. It is not
absolute. -/
theorem driveJoin_of_leavesBase (htail : windows.isShare tail = false) (h : LeavesBase base tail) :
    driveJoin base tail = tail ∧ windows.isAbsolute tail = false := by
  unfold driveJoin
  rw [joinParts_of_leavesBase h]
  rcases letter_or_share h.1 with ⟨a, ha⟩ | hshare
  · constructor
    · have hwhole := splitDrive_append tail
      rw [ha] at hwhole
      rw [show splitDrive tail = ([a, colon], (splitDrive tail).2) from Prod.ext ha rfl, render_letter]
      exact hwhole
    · rw [isAbsolute_windows, hasRoot_windows, ha, isShare_letter, h.2.1]
      rfl
  · rw [isShare_splitDrive, htail] at hshare
    exact absurd hshare Bool.false_ne_true

/-- A path that is joined on a letter's drive lies on it, and with it what the parts were joined to. -/
theorem splitDrive_driveJoin {a : CodePoint}
    (h : joinParts (Drive.splitDrive base) (Drive.splitDrive tail) = ([a, colon], path)) :
    Drive.splitDrive (driveJoin base tail) = ([a, colon], path) := by
  unfold driveJoin
  rw [h, render_letter, splitDrive_letter]

/-! ## Normal forms of joined paths -/

/-- The normal form of a path that names a drive is absolute exactly if the path is. -/
theorem isAbsolute_normalise_windows (h : (Drive.splitDrive path).1 ≠ []) :
    windows.isAbsolute (normalise .windows path) = windows.isAbsolute path :=
  (isAbsolute_normalise_windows_iff path).mpr (fun hnone => h hnone.1)

/-- **The normal form of a joined path is absolute** unless the tail leaves the base. -/
theorem isAbsolute_normalise_driveJoin_iff (hbase : windows.isAbsolute base = true)
    (htail : windows.isShare tail = false) :
    windows.isAbsolute (normalise .windows (driveJoin base tail)) = true ↔ ¬ LeavesBase base tail := by
  constructor
  · intro habsolute hleaves
    obtain ⟨hjoin, hrelative⟩ := driveJoin_of_leavesBase htail hleaves
    rw [hjoin, isAbsolute_normalise_windows hleaves.1, hrelative] at habsolute
    exact absurd habsolute Bool.false_ne_true
  · intro hstays
    have hjoined := isAbsolute_driveJoin hbase hstays
    rw [isAbsolute_normalise_windows (splitDrive_ne_nil_of_isAbsolute hjoined), hjoined]

end WorkspacePaths
