import WorkspacePaths.Proofs.Path.Drive
import WorkspacePaths.Proofs.Path.Separators

/-!
# `Proofs.Path.Windows` — folding paths that may lie on drives

A path with drives is folded behind its drive, at separators of two kinds. The names that come out of it
hold neither kind, and one kind is written between them, so the normal form is the drive as it was
spelled and behind it a trail that begins with a separator exactly if the path has a root.

## Contents
- **Spelling.** `unifySeparators_windows`, and `unifySeparators_of_not_mem` where there is nothing to do.
- **Names.** `unbroken_of_mem_names`.
- **Pieces.** `pieces_append_slash`, `pieces_joinWith`; `position_of_letter`.
- **Trails.** `startsAtSlash_trail`, `isShare_trail`; `normalise_windows`.
-/

namespace WorkspacePaths.Flavour

open Drive

variable {path name t : Text}

/-! ## Spelling -/

/-- Slashes become backslashes. -/
theorem unifySeparators_windows (t : Text) :
    windows.unifySeparators t
      = t.map (fun c => if c = CodePoint.scalar '/' then backslash else c) :=
  Text.replaceAll_singleton t (CodePoint.scalar '/') backslash

theorem unifySeparators_of_not_mem (h : CodePoint.scalar '/' ∉ t) :
    windows.unifySeparators t = t := by
  rw [unifySeparators_windows]
  refine (List.map_congr_left (fun c hc => ?_)).trans (List.map_id t)
  have hne : c ≠ CodePoint.scalar '/' := by
    rintro rfl
    exact h hc
  exact if_neg hne

theorem splitDrive_windows (path : Text) : windows.splitDrive path = Drive.splitDrive path := rfl

theorem hasRoot_windows (path : Text) :
    windows.hasRoot path
      = (windows.isShare (Drive.splitDrive path).1 || startsAtSlash (Drive.splitDrive path).2) := by
  rw [← startsAtSeparator_windows]
  rfl

/-! ## Names -/

theorem mem_separators_windows {c : CodePoint} (h : isSlash c = true) : [c] ∈ windows.separators := by
  rcases eq_of_isSlash h with rfl | rfl
  · decide
  · decide

theorem unbroken_of_undivided (h : windows.Undivided t) : Unbroken t := by
  intro c hc
  rw [← Bool.not_eq_true]
  intro hslash
  exact h c hc (mem_separators_windows hslash)

/-- No name of a position holds a separator of either kind. -/
theorem unbroken_of_mem_names (h : name ∈ (windows.position path).names) : Unbroken name :=
  unbroken_of_undivided (undivided_of_mem_parts (by decide) (mem_names_position h))

/-! ## Pieces -/

theorem pieces_append_slash {c : CodePoint} (hc : isSlash c = true) (t u : Text) :
    windows.pieces (t ++ c :: u) = windows.pieces t ++ windows.pieces u :=
  pieces_append_cons (by decide) (mem_separators_windows hc) t u

theorem pieces_of_unbroken (h : Unbroken t) : windows.pieces t = [t] := by
  unfold pieces
  rw [unifySeparators_of_not_mem (h.not_mem rfl)]
  exact Text.splitOn_of_not_mem (h.not_mem rfl)

theorem slash_not_mem_joinWith {names : List Text} (h : ∀ name ∈ names, Unbroken name) :
    CodePoint.scalar '/' ∉ Text.joinWith [backslash] names := by
  intro hmem
  rcases Text.mem_or_exists_of_mem_joinWith hmem with hsep | ⟨name, hname, hc⟩
  · exact absurd hsep (by decide)
  · exact (h name hname).not_mem rfl hc

/-- Joined names are the pieces of the whole. -/
theorem pieces_joinWith {names : List Text} (hne : names ≠ [])
    (h : ∀ name ∈ names, Unbroken name) :
    windows.pieces (Text.joinWith [backslash] names) = names := by
  unfold pieces
  rw [unifySeparators_of_not_mem (slash_not_mem_joinWith h)]
  exact Text.splitOn_joinWith hne (fun name hname => (h name hname).not_mem rfl)

/-- On a letter's drive, all pieces behind it are read, from its top if they begin at a separator. -/
theorem position_of_letter {a : CodePoint} {rest : Text}
    (h : Drive.splitDrive path = ([a, colon], rest)) :
    windows.position path
      = (windows.pieces rest).foldl Position.readPart ⟨[a, colon], startsAtSlash rest, []⟩ := by
  rw [position_eq, parts_eq, hasRoot_windows, splitDrive_windows, h, isShare_letter, Bool.false_or]

/-! ## Trails -/

theorem startsAtSlash_joinWith {names : List Text} (h : ∀ name ∈ names, name ≠ [] ∧ Unbroken name) :
    startsAtSlash (Text.joinWith [backslash] names) = false := by
  cases names with
  | nil => rfl
  | cons first rest =>
    obtain ⟨hne, hfirst⟩ := h first List.mem_cons_self
    rw [Text.joinWith_cons_flatMap, startsAtSlash_append hne, hfirst.startsAtSlash]

theorem mem_reverse_names_windows (h : name ∈ (windows.position path).names.reverse) :
    name ≠ [] ∧ Unbroken name :=
  ⟨(windows.folded_position path).ne_nil_of_mem (List.mem_reverse.mp h),
    unbroken_of_mem_names (List.mem_reverse.mp h)⟩

theorem trail_windows (path : Text) :
    (windows.position path).trail windows
      = (if windows.hasRoot path then [backslash] else [])
        ++ Text.joinWith [backslash] (windows.position path).names.reverse := by
  unfold Position.trail
  rw [position_rooted]
  rfl

/-- The trail of a path begins with a separator exactly if the path has a root. -/
theorem startsAtSlash_trail (path : Text) :
    startsAtSlash ((windows.position path).trail windows) = windows.hasRoot path := by
  rw [trail_windows]
  by_cases hroot : windows.hasRoot path = true
  · rw [if_pos hroot, hroot]
    rfl
  · rw [if_neg hroot, List.nil_append,
      startsAtSlash_joinWith (fun _ hname => mem_reverse_names_windows hname)]
    exact (Bool.not_eq_true _ ▸ hroot).symm

/-- A trail does not begin as a share does. -/
theorem isShare_trail (path : Text) :
    windows.isShare ((windows.position path).trail windows) = false := by
  have hnames : startsAtSlash (Text.joinWith [backslash] (windows.position path).names.reverse)
      = false := startsAtSlash_joinWith (fun _ hname => mem_reverse_names_windows hname)
  rw [trail_windows]
  generalize Text.joinWith [backslash] (windows.position path).names.reverse = names at hnames
  -- the second code point, or the first one if there is no root, is that of a name
  by_cases hroot : windows.hasRoot path = true
  · rw [if_pos hroot, List.singleton_append]
    match names, hnames with
    | [], _ => rfl
    | c :: rest, hc =>
      rw [startsAtSlash_cons] at hc
      rw [isShare_windows, hc, Bool.and_false]
  · rw [if_neg hroot, List.nil_append]
    match names, hnames with
    | [], _ => rfl
    | [_], _ => rfl
    | c :: d :: rest, hc =>
      rw [startsAtSlash_cons] at hc
      rw [isShare_windows, hc, Bool.false_and]

theorem slash_not_mem_trail (path : Text) :
    CodePoint.scalar '/' ∉ (windows.position path).trail windows := by
  rw [trail_windows, List.mem_append, not_or]
  constructor
  · split <;> decide
  · exact slash_not_mem_joinWith (fun _ hname => (mem_reverse_names_windows hname).2)

/-- The normal form of a path is its drive, as it was spelled, and its trail. -/
theorem normalise_windows (path : Text) :
    normalise .windows path
      = (Drive.splitDrive path).1 ++ (windows.position path).trail windows := by
  unfold normalise
  rw [Position.render_eq, position_drive]
  rfl

end WorkspacePaths.Flavour
