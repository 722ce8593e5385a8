import WorkspacePaths.Proofs.Entry.Absolute
import WorkspacePaths.Proofs.Path.Components

/-!
# `Proofs.Entry.Containment` — entries that stay below the workspace root

Where there are drives, an entry behind `./` is joined to the workspace root, and separators between the
mark and the rest are dropped, so that the rest is no path from the top. It may name a drive all the same,
and then joining goes by the drive. A rest without a drive is led below the root, if nowhere in the entry
there is a step up. A rest on another drive leads there, and so does one that spells the drive of the
root in another case. On the drive of the root itself, a rest may be rooted, which discards the names of
the root, or step up right behind the colon, where the entry does not show it, which takes the last of
them away. It is below the root then only if it names again what is lost.

## Contents
- `StaysIn`: below the root; `staysIn_normalise_iff`, by the names of a position.
- `up_not_mem_parts_tail`: where a rest may step up.
- `keptNames`: what is left of the names of the root; `names_driveJoin`.
- `anchor_workspace_staysIn_iff`: which entries stay below the root;
  `anchor_workspace_leaves` at entries that do not.
-/

namespace WorkspacePaths

open Drive Flavour

/-! ## Below the root -/

/-- The path lies on the drive of the root, at its top or below, and begins with all names of the root. -/
structure StaysIn (root path : Text) : Prop where
  drive : (windows.splitDrive path).1 = (windows.splitDrive root).1
  rooted : windows.hasRoot path = true
  below : windows.componentNames (normalise .windows root) <+: windows.componentNames path

instance (root path : Text) : Decidable (StaysIn root path) :=
  decidable_of_iff ((windows.splitDrive path).1 = (windows.splitDrive root).1
      ∧ windows.hasRoot path = true
      ∧ windows.componentNames (normalise .windows root) <+: windows.componentNames path)
    ⟨fun h => ⟨h.1, h.2.1, h.2.2⟩, fun h => ⟨h.drive, h.rooted, h.below⟩⟩

variable {a : CodePoint} {root entry tail path above rest : Text}

theorem staysIn_normalise_iff (hroot : (Drive.splitDrive root).1 = [a, colon])
    (hpath : Drive.splitDrive path = ([a, colon], rest)) (htop : startsAtSlash rest = true) :
    StaysIn root (normalise .windows path)
      ↔ windows.componentNames (normalise .windows root) <+: (windows.position path).names.reverse := by
  have hletter : (Drive.splitDrive path).1 = [a, colon] := congrArg Prod.fst hpath
  have hkeeps := keepsDrive_letter hletter
  rw [← componentNames_normalise_letter hletter]
  constructor
  · intro h
    exact h.below
  · intro h
    refine ⟨?_, ?_, h⟩
    · rw [splitDrive_windows, splitDrive_windows, splitDrive_normalise_of_keepsDrive hkeeps, hletter,
        hroot]
    · rw [← position_rooted, position_normalise_windows hkeeps, position_rooted, hasRoot_windows,
        hpath, htop, Bool.or_true]

/-! ## Steps up -/

/-- What stands in the rest of an entry between separators stands there in the entry. -/
theorem mem_parts_of_mem_pieces {part : Text}
    (h : part ∈ windows.pieces (windows.stripLeading rest)) :
    part ∈ windows.parts (dot :: slash :: rest) := by
  have hnone : Drive.splitDrive (dot :: slash :: rest) = ([], dot :: slash :: rest) :=
    splitDrive_of_none (isShare_of_not_startsAtSlash rfl) (by simp)
  rw [stripLeading_windows] at h
  rw [parts_eq, splitDrive_windows, hnone,
    show dot :: slash :: rest = [dot] ++ slash :: rest from rfl, pieces_append_slash rfl]
  exact List.mem_append_right _ (mem_pieces_of_mem_dropWhile rest h)

/-- Where an entry has no step up, its rest has none but right behind a drive. -/
theorem up_not_mem_parts_tail (h : Position.up ∉ windows.parts (dot :: slash :: rest)) :
    Position.up ∉ (windows.parts (windows.stripLeading rest)).tail
      ∧ ((windows.splitDrive (windows.stripLeading rest)).1 = [] →
          Position.up ∉ windows.parts (windows.stripLeading rest)) := by
  generalize htail : windows.stripLeading rest = tail
  have hpieces : Position.up ∉ windows.pieces tail :=
    fun hup => h (mem_parts_of_mem_pieces (htail ▸ hup))
  have hwhole := splitDrive_append tail
  rw [parts_eq, splitDrive_windows]
  constructor
  · obtain ⟨first, behind, heq, hbehind⟩ := exists_pieces_cons (Drive.splitDrive tail).2
    rw [heq, List.tail_cons]
    intro hup
    have hin := hbehind (Drive.splitDrive tail).1 _ hup
    rw [hwhole] at hin
    exact hpieces hin
  · intro hnone
    rw [hnone, List.nil_append] at hwhole
    rwa [hwhole]

/-! ## Joined to the root -/

/-- What is left of the names of the root before those of a tail on the same drive: none if the tail is
rooted, and all but the last if it steps up. -/
def keptNames (root tail : Text) : List Text :=
  if windows.startsAtSeparator (windows.splitDrive tail).2 then []
  else if Component.parent ∈ windows.components tail then
    (windows.componentNames (normalise .windows root)).dropLast
  else windows.componentNames (normalise .windows root)

/-- **The names of a tail come behind what is left of those of the root**, on the drive of the root. -/
theorem names_driveJoin (hroot : Drive.splitDrive root = ([a, colon], above))
    (habove : startsAtSlash above = true)
    (hsame : (Drive.splitDrive tail).1 = [] ∨ (Drive.splitDrive tail).1 = [a, colon])
    (hup : Position.up ∉ (windows.parts tail).tail) :
    ∃ rest, Drive.splitDrive (driveJoin root tail) = ([a, colon], rest) ∧ startsAtSlash rest = true
      ∧ (windows.position (driveJoin root tail)).names.reverse
          = keptNames root tail ++ windows.componentNames tail := by
  have hletter : (Drive.splitDrive root).1 = [a, colon] := congrArg Prod.fst hroot
  have hjoined := joinParts_of_same_drive (by rw [hletter]; exact List.cons_ne_nil _ _)
    (show _ ∨ (Drive.splitDrive tail).1 = (Drive.splitDrive root).1 by rwa [hletter])
  rw [hletter] at hjoined
  have hsplit := splitDrive_driveJoin hjoined
  rw [componentNames_eq]
  unfold keptNames
  rw [startsAtSeparator_windows, splitDrive_windows]
  by_cases htop : startsAtSlash (Drive.splitDrive tail).2 = true
  · -- the tail is rooted, so its pieces are read from the top
    rw [if_pos htop] at hsplit ⊢
    refine ⟨_, hsplit, htop, ?_⟩
    have hread := names_foldl_readPart (p := ⟨[a, colon], true, []⟩) Stack.nil (Or.inl rfl) hup
    rw [position_of_letter hsplit, htop, ← splitDrive_windows, ← parts_eq, hread]
    simp
  · rw [if_neg htop] at hsplit ⊢
    refine ⟨_, hsplit, startsAtSlash_closed_append (by rwa [hroot]) _, ?_⟩
    have hroot' : Drive.splitDrive root = ([a, colon], (Drive.splitDrive root).2) :=
      Prod.ext hletter rfl
    have hread := names_foldl_readPart (windows.folded_position root) (anchored_letter hletter) hup
    rw [position_of_closed hroot' (by rwa [hroot]) hsplit, ← splitDrive_windows, ← parts_eq, hread,
      componentNames_normalise_letter hletter]
    simp only [parent_mem_components_iff]

/-- A rest without a drive, and without a step up, takes nothing from the names of the root. -/
theorem keptNames_of_no_drive (hnone : (windows.splitDrive (windows.stripLeading rest)).1 = [])
    (hup : Position.up ∉ windows.parts (windows.stripLeading rest)) :
    keptNames root (windows.stripLeading rest) = windows.componentNames (normalise .windows root) := by
  have hstart := startsAtSlash_stripLeading rest
  have hwhole := splitDrive_append (windows.stripLeading rest)
  rw [splitDrive_windows] at hnone
  rw [hnone, List.nil_append] at hwhole
  unfold keptNames
  rw [startsAtSeparator_windows, splitDrive_windows, hwhole, hstart, if_neg Bool.false_ne_true,
    if_neg (fun hparent => hup (parent_mem_components_iff.mp hparent))]

/-- A tail on a letter's drive leads to that drive. -/
theorem drive_normalise_driveJoin (h : (Drive.splitDrive tail).1 = [a, colon]) :
    (Drive.splitDrive (normalise .windows (driveJoin root tail))).1 = [a, colon] := by
  have hfst : (joinParts (Drive.splitDrive root) (Drive.splitDrive tail)).1 = [a, colon] := by
    rw [fst_joinParts (by rw [h]; exact List.cons_ne_nil _ _), h]
  have hletter : (Drive.splitDrive (driveJoin root tail)).1 = [a, colon] :=
    congrArg Prod.fst (splitDrive_driveJoin (Prod.ext hfst rfl))
  rw [splitDrive_normalise_of_keepsDrive (keepsDrive_letter hletter)]
  exact hletter

/-! ## Entries -/

/-- An entry behind `./` is joined to the workspace root without the separators at its front. -/
theorem anchor_current (env : Environment) (root rest : Text) :
    anchor env .windows root (dot :: slash :: rest)
      = some (driveJoin root (windows.stripLeading rest)) := rfl

/-- **Which entries stay below the workspace root**, where there are drives, the root lies on a letter's
drive, and the entry begins with `./` and goes up nowhere: those whose rest names no drive, and of those
that name the drive of the root, spelled as there, the ones whose names begin with those of the root. In
front of the names of the rest itself stand those that are left of the root's. -/
theorem anchor_workspace_staysIn_iff (env : Environment) {letter : CodePoint} {root entry : Text}
    (hdrive : (windows.splitDrive root).1 = [letter, colon])
    (htop : windows.startsAtSeparator (windows.splitDrive root).2 = true)
    (hmark : entry.startsWith "./" = true) (hup : Component.parent ∉ windows.components entry) :
    let tail := windows.stripLeading (entry.drop 2)
    ∃ path, anchor env .windows root entry = some path
      ∧ (StaysIn root (normalise .windows path) ↔
          (windows.splitDrive tail).1 = []
            ∨ (windows.splitDrive tail).1 = (windows.splitDrive root).1
              ∧ windows.componentNames (normalise .windows root)
                  <+: keptNames root tail ++ windows.componentNames tail) := by
  obtain ⟨rest, rfl⟩ := startsWith_current_iff.mp hmark
  rw [parent_mem_components_iff] at hup
  obtain ⟨hbehind, hnowhere⟩ := up_not_mem_parts_tail hup
  intro tail
  refine ⟨driveJoin root tail, anchor_current env root rest, ?_⟩
  have hroot : Drive.splitDrive root = ([letter, colon], (Drive.splitDrive root).2) := Prod.ext hdrive rfl
  have habove : startsAtSlash (Drive.splitDrive root).2 = true := by
    rwa [startsAtSeparator_windows] at htop
  by_cases hsame : (Drive.splitDrive tail).1 = [] ∨ (Drive.splitDrive tail).1 = [letter, colon]
  · obtain ⟨below, hsplit, hbelow, hnames⟩ := names_driveJoin hroot habove hsame hbehind
    rw [staysIn_normalise_iff hdrive hsplit hbelow, hnames]
    rcases hsame with hnone | hsame
    · have hkept : keptNames root tail = windows.componentNames (normalise .windows root) :=
        keptNames_of_no_drive hnone (hnowhere hnone)
      rw [hkept]
      exact iff_of_true (List.prefix_append _ _) (Or.inl hnone)
    · have hnamed : (windows.splitDrive tail).1 ≠ [] := by
        rw [splitDrive_windows, hsame]
        exact List.cons_ne_nil _ _
      have hdrives : (windows.splitDrive tail).1 = (windows.splitDrive root).1 :=
        hsame.trans hdrive.symm
      rw [or_iff_right hnamed, and_iff_right hdrives]
  · obtain ⟨hnamed, hother⟩ := not_or.mp hsame
    refine iff_of_false (fun h => ?_) ?_
    · -- the drive is the one that the rest names
      have hnone : windows.isShare tail = false :=
        isShare_of_not_startsAtSlash (startsAtSlash_stripLeading rest)
      have hshare : windows.isShare (Drive.splitDrive tail).1 ≠ true := by
        rw [isShare_splitDrive, hnone]
        exact Bool.false_ne_true
      obtain ⟨d, hd⟩ := (letter_or_share hnamed).resolve_right hshare
      have hequal : [d, colon] = [letter, colon] :=
        (drive_normalise_driveJoin hd).symm.trans (h.drive.trans hdrive)
      exact hother (hd.trans hequal)
    · rintro (hnone | ⟨hsame, _⟩)
      · exact hnamed hnone
      · exact hother (hsame.trans hdrive)

/-- The rest of an entry may lie on the drive of the root, and step up right behind the colon, as long as it
names again what is lost. -/
theorem anchor_workspace_staysIn_on_drive :
    let env := Environment.ofBindings [] none
    (windows.splitDrive "C:\\ws").1 = [CodePoint.scalar 'C', colon]
      ∧ windows.startsAtSeparator (windows.splitDrive "C:\\ws").2 = true
      ∧ Text.startsWith ".//C:..\\ws/x" "./" = true
      ∧ Component.parent ∉ windows.components ".//C:..\\ws/x"
      ∧ ∃ path, anchor env .windows "C:\\ws" ".//C:..\\ws/x" = some path
          ∧ StaysIn "C:\\ws" (normalise .windows path) := by
  intro env
  have hdrive : (windows.splitDrive "C:\\ws").1 = [CodePoint.scalar 'C', colon] := by decide
  have htop : windows.startsAtSeparator (windows.splitDrive "C:\\ws").2 = true := by decide
  have hmark : Text.startsWith ".//C:..\\ws/x" "./" = true := by decide
  have hup : Component.parent ∉ windows.components ".//C:..\\ws/x" := by decide
  refine ⟨hdrive, htop, hmark, hup, ?_⟩
  obtain ⟨path, hanchor, hiff⟩ := anchor_workspace_staysIn_iff env hdrive htop hmark hup
  exact ⟨path, hanchor, hiff.mpr (by decide)⟩

/-- **Not every entry behind `./` stays below the workspace root**, though none of these goes up: one lies
on another drive, one is rooted on the drive of the root, one spells that drive in another case, and one
steps up right behind its colon. -/
theorem anchor_workspace_leaves :
    let env := Environment.ofBindings [] none
    let leaves := fun entry : Text =>
      entry.startsWith "./" = true ∧ Component.parent ∉ windows.components entry
        ∧ ∃ path ∈ anchor env .windows "C:\\ws" entry, ¬ StaysIn "C:\\ws" (normalise .windows path)
    (windows.splitDrive "C:\\ws").1 = "C:"
      ∧ windows.startsAtSeparator (windows.splitDrive "C:\\ws").2 = true
      ∧ leaves "./d:x" ∧ leaves "./C:\\x" ∧ leaves "./c:x" ∧ leaves "./C:.." := by
  decide

end WorkspacePaths
