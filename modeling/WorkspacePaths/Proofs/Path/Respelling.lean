import WorkspacePaths.Proofs.Path.Windows

/-!
# `Proofs.Path.Respelling` — the two slashes of paths that may lie on drives

Where there are drives, both slashes separate, and a backslash is written. A normal form spells the drive
as its path does, and everything behind it anew. So slashes are left in the drive alone, and it makes no
difference whether they are written as backslashes before or after: a drive ends in the same place with
either slash, since what ends it is where the separators stand and which the other code points are, and
behind the drive all separators are alike.

## Contents
- **Drives.** `respell`, one code point; `splitDrive_map_respell`: the drive of a respelled path.
- **Positions.** `position_map_respell`: where a respelled path leads.
- `normalise_windows_shape`: what the normal form of a path is made of, and that respelling commutes with
  normalising.
-/

namespace WorkspacePaths

namespace Drive

variable {c : CodePoint} {t path : Text}

/-! ## Drives -/

/-- A slash is written as a backslash, and all else as it is. -/
def respell (c : CodePoint) : CodePoint := if c = CodePoint.scalar '/' then backslash else c

/-- A separator becomes a backslash, and any other code point stays. -/
theorem respell_cases (c : CodePoint) :
    (isSlash c = true ∧ respell c = backslash) ∨ (isSlash c = false ∧ respell c = c) := by
  by_cases h : isSlash c = true
  · left
    rcases eq_of_isSlash h with rfl | rfl
    · decide
    · decide
  · right
    have hne : c ≠ CodePoint.scalar '/' := by
      rintro rfl
      exact h rfl
    exact ⟨Bool.not_eq_true _ ▸ h, if_neg hne⟩

@[simp] theorem isSlash_respell (c : CodePoint) : isSlash (respell c) = isSlash c := by
  rcases respell_cases c with ⟨hslash, heq⟩ | ⟨_, heq⟩
  · rw [heq, hslash]
    rfl
  · rw [heq]

@[simp] theorem plain_respell (c : CodePoint) : plain (respell c) = plain c := by
  rcases respell_cases c with ⟨hslash, heq⟩ | ⟨_, heq⟩
  · rw [heq, plain_of_isSlash hslash]
    rfl
  · rw [heq]

theorem respell_eq_colon_iff : respell c = colon ↔ c = colon := by
  rcases respell_cases c with ⟨hslash, heq⟩ | ⟨_, heq⟩
  · rw [heq]
    refine iff_of_false (by decide) ?_
    rintro rfl
    exact absurd hslash (by decide)
  · rw [heq]

@[simp] theorem respell_respell (c : CodePoint) : respell (respell c) = respell c := by
  rcases respell_cases c with ⟨_, heq⟩ | ⟨_, heq⟩
  · rw [heq]
    rfl
  · rw [heq, heq]

theorem startsAtSlash_map_respell (t : Text) : startsAtSlash (t.map respell) = startsAtSlash t := by
  cases t with
  | nil => rfl
  | cons c rest => exact isSlash_respell c

theorem isShare_map_respell (t : Text) :
    Flavour.windows.isShare (t.map respell) = Flavour.windows.isShare t := by
  match t with
  | [] => rfl
  | [_] => rfl
  | a :: b :: rest =>
    rw [List.map_cons, List.map_cons, isShare_windows, isShare_windows, isSlash_respell,
      isSlash_respell]

theorem serverStart_map_respell (t : Text) : serverStart (t.map respell) = serverStart t := by
  have hplain : ((t.map respell).take 8).map plain = (t.take 8).map plain := by
    rw [← List.map_take, List.map_map]
    exact List.map_congr_left (fun c _ => plain_respell c)
  unfold serverStart
  rw [hplain]

/-- The names of a share are as long with either slash. -/
theorem shareLength_map_respell (t : Text) : shareLength (t.map respell) = shareLength t := by
  have htake : ∀ u : Text, (u.map respell).takeWhile (fun c => !isSlash c)
      = (u.takeWhile (fun c => !isSlash c)).map respell := by
    intro u
    rw [List.takeWhile_map]
    congr 2
    funext c
    simp
  have hdrop : ∀ u : Text, (u.map respell).dropWhile (fun c => !isSlash c)
      = (u.dropWhile (fun c => !isSlash c)).map respell := by
    intro u
    rw [List.dropWhile_map]
    congr 2
    funext c
    simp
  unfold shareLength
  rw [serverStart_map_respell, ← List.map_drop]
  dsimp only
  rw [hdrop, htake, List.length_map, List.length_map]
  cases (t.drop (serverStart t)).dropWhile (fun c => !isSlash c) with
  | nil => rfl
  | cons c rest =>
    show _ + 1 + ((rest.map respell).takeWhile (fun c => !isSlash c)).length = _
    rw [htake, List.length_map]

theorem driveLength_map_respell (t : Text) : driveLength (t.map respell) = driveLength t := by
  match t with
  | [] => rfl
  | [_] => rfl
  | a :: b :: rest =>
    have hshare := shareLength_map_respell (a :: b :: rest)
    show (if (isSlash (respell a) && isSlash (respell b)) = true
        then shareLength ((a :: b :: rest).map respell)
        else if respell b = colon then 2 else 0) = _
    rw [hshare, isSlash_respell, isSlash_respell]
    simp only [respell_eq_colon_iff]
    rfl

/-- **The drive of a respelled path** is that of the path, respelled. -/
theorem splitDrive_map_respell (path : Text) :
    splitDrive (path.map respell) = ((splitDrive path).1.map respell, (splitDrive path).2.map respell) := by
  unfold splitDrive
  rw [driveLength_map_respell, List.map_take, List.map_drop]

end Drive

namespace Flavour

open Drive

variable {path : Text}

/-! ## Positions -/

/-- **Where a respelled path leads**: to the same names from the drive respelled. -/
theorem position_map_respell (path : Text) :
    (windows.position (path.map respell)).rooted = (windows.position path).rooted
      ∧ (windows.position (path.map respell)).names = (windows.position path).names := by
  have hroot : windows.hasRoot (path.map respell) = windows.hasRoot path := by
    rw [hasRoot_windows, hasRoot_windows, splitDrive_map_respell, isShare_map_respell,
      startsAtSlash_map_respell]
  have hparts : windows.parts (path.map respell) = windows.parts path := by
    unfold parts
    rw [splitDrive_windows, splitDrive_windows, splitDrive_map_respell, unifySeparators_windows,
      unifySeparators_windows, List.map_map]
    congr 2
    funext c
    exact respell_respell c
  constructor
  · rw [position_rooted, position_rooted, hroot]
  · rw [position_eq, position_eq, hparts]
    refine Position.foldl_readPart_names_congr _ rfl ?_
    unfold Position.Anchored
    rw [hroot, splitDrive_windows, splitDrive_windows, splitDrive_map_respell, ne_eq, ne_eq,
      List.map_eq_nil_iff]

end Flavour

/-! ## Normal forms -/

open Drive Flavour

/-- **What a normal form is made of**, where there are drives: the drive as the path spells it, a backslash
if the path has a root, and names with backslashes between them. No separator of either kind stands in a
name, and names lead down, except that they may begin with steps up where there is neither a drive nor a
root. To write every slash as a backslash makes no difference before or after. -/
theorem normalise_windows_shape (path : Text) :
    (∃ names, windows.NormalNames
          ((windows.splitDrive path).1 ≠ [] ∨ windows.hasRoot path = true) names
        ∧ normalise .windows path
          = (windows.splitDrive path).1 ++ (if windows.hasRoot path then ("\\" : Text) else [])
            ++ Text.joinWith "\\" names)
    ∧ normalise .windows (path.replaceAll "/" "\\")
        = (normalise .windows path).replaceAll "/" "\\" := by
  constructor
  · have hanchored : (windows.position path).Anchored
        ↔ (windows.splitDrive path).1 ≠ [] ∨ windows.hasRoot path = true := by
      unfold Position.Anchored
      rw [position_rooted, position_drive, or_comm]
    have hnames := normalNames_position (f := windows) (by decide) path
    rw [hanchored] at hnames
    refine ⟨_, hnames, ?_⟩
    rw [normalise_windows, trail_windows, ← List.append_assoc]
    rfl
  · have hreplace : ∀ t : Text, t.replaceAll "/" "\\" = t.map respell := unifySeparators_windows
    obtain ⟨hrooted, hnames⟩ := position_map_respell path
    have htrail : (windows.position (path.map respell)).trail windows
        = (windows.position path).trail windows := by
      unfold Position.trail
      rw [hrooted, hnames]
    -- the trail is written with backslashes, so only the drive has slashes to be replaced
    have hwritten := unifySeparators_of_not_mem (slash_not_mem_trail path)
    rw [unifySeparators_windows] at hwritten
    rw [hreplace, hreplace, normalise_windows, normalise_windows, splitDrive_map_respell, htrail,
      List.map_append]
    exact congrArg _ hwritten.symm

end WorkspacePaths
