import WorkspacePaths.Proofs.Path.Joining

/-!
# `Proofs.Path.Components` — the names on a path, and on a path behind another

The components of a path are read off the pieces between its separators, and so a path behind another has
the pieces of the one and then those of the other: going through both is going on from where the first
one leads. Where nothing lies above, going on keeps the names that are there, and adds those that the
pieces are. It takes one of them away for a step up, and only if that is the first piece can a path that
goes up nowhere else do so. A normal form holds the names of the position that it is the path to.

## Contents
- **Components.** `componentNames`, by `componentNames_eq`; `parent_mem_components_iff`.
- **Pieces.** `exists_pieces_cons`, what text in front of a path changes; `foldl_pieces_closed`.
- **Positions.** `names_foldl_readPart`; `position_of_closed`, the position of a path behind another;
  `componentNames_normalise_letter`, the names of a normal form on a letter's drive.
-/

namespace WorkspacePaths

open Drive

/-- The name that a component goes down into. -/
def Component.name? : Component → Option Text
  | .name text => some text
  | _ => none

namespace Flavour

/-! ## Components -/

/-- The names that a path goes down into, in order. -/
def componentNames (f : Flavour) (path : Text) : List Text :=
  (f.components path).filterMap Component.name?

variable {f : Flavour} {t path part : Text}

/-- In front of what the parts stand for are a drive and a root at most. -/
theorem exists_components (f : Flavour) (path : Text) :
    ∃ front, f.components path = front ++ (f.parts path).filterMap classify
      ∧ ∀ component ∈ front, component.name? = none ∧ component ≠ .parent := by
  unfold components parts
  dsimp only
  refine ⟨_, rfl, fun component hmem => ?_⟩
  rcases List.mem_append.mp hmem with hlead | hroot
  · split at hlead
    · exact absurd hlead List.not_mem_nil
    · rw [List.mem_singleton.mp hlead]
      exact ⟨rfl, by simp⟩
  · split at hroot
    · rw [List.mem_singleton.mp hroot]
      exact ⟨rfl, by simp⟩
    · exact absurd hroot List.not_mem_nil

theorem filterMap_name?_classify (parts : List Text) :
    (parts.filterMap classify).filterMap Component.name? = parts.filter (fun part => IsName part) := by
  induction parts with
  | nil => rfl
  | cons part rest ih =>
    rcases part_cases part with rfl | rfl | rfl | hname
    · exact ih
    · exact ih
    · exact ih
    · rw [List.filterMap_cons_some (classify_of_isName hname),
        List.filter_cons_of_pos (by simpa using hname), ← ih]
      rfl

/-- The names of a path are those of its parts that lead down. -/
theorem componentNames_eq (f : Flavour) (path : Text) :
    f.componentNames path = (f.parts path).filter (fun part => IsName part) := by
  obtain ⟨front, hcomponents, hfront⟩ := exists_components f path
  have hnone : front.filterMap Component.name? = [] :=
    List.filterMap_eq_nil_iff.mpr (fun component hmem => (hfront component hmem).1)
  unfold componentNames
  rw [hcomponents, List.filterMap_append, hnone, List.nil_append, filterMap_name?_classify]

theorem classify_eq_parent_iff : classify part = some .parent ↔ part = Position.up := by
  rcases part_cases part with rfl | rfl | rfl | hname
  · decide
  · decide
  · decide
  · rw [classify_of_isName hname]
    exact iff_of_false (by simp) hname.ne_up

/-- A path goes up where one of its parts is the step up. -/
theorem parent_mem_components_iff :
    Component.parent ∈ f.components path ↔ Position.up ∈ f.parts path := by
  obtain ⟨front, hcomponents, hfront⟩ := exists_components f path
  rw [hcomponents, List.mem_append, List.mem_filterMap]
  constructor
  · rintro (hmem | ⟨part, hpart, hup⟩)
    · exact absurd rfl (hfront _ hmem).2
    · exact classify_eq_parent_iff.mp hup ▸ hpart
  · intro hup
    exact Or.inr ⟨_, hup, classify_eq_parent_iff.mpr rfl⟩

/-! ## Pieces -/

/-- Text in front of a path changes its first piece and no other. -/
theorem exists_pieces_cons (t : Text) :
    ∃ first behind, windows.pieces t = first :: behind
      ∧ ∀ lead, ∀ piece ∈ behind, piece ∈ windows.pieces (lead ++ t) := by
  obtain ⟨front, rest, rfl, hfront, hrest⟩ := exists_unbroken_append t
  cases rest with
  | nil =>
    rw [List.append_nil, pieces_of_unbroken hfront]
    exact ⟨front, [], rfl, fun _ piece hmem => absurd hmem List.not_mem_nil⟩
  | cons c more =>
    have hc : isSlash c = true := hrest.resolve_left (List.cons_ne_nil _ _)
    rw [pieces_append_slash hc, pieces_of_unbroken hfront]
    refine ⟨front, windows.pieces more, rfl, fun lead piece hmem => ?_⟩
    rw [← List.append_assoc, pieces_append_slash hc]
    exact List.mem_append_right _ hmem

theorem mem_pieces_of_mem_dropWhile (t : Text) (h : part ∈ windows.pieces (t.dropWhile isSlash)) :
    part ∈ windows.pieces t := by
  induction t with
  | nil => exact h
  | cons c rest ih =>
    by_cases hc : isSlash c = true
    · rw [List.dropWhile_cons_of_pos hc] at h
      rw [show c :: rest = [] ++ c :: rest from rfl, pieces_append_slash hc]
      exact List.mem_append_right _ (ih h)
    · rwa [List.dropWhile_cons_of_neg hc] at h

/-- **Going through a path behind another** is going on from where the first one leads. -/
theorem foldl_pieces_closed (t u : Text) (p : Position) :
    (windows.pieces (closed t ++ u)).foldl Position.readPart p
      = (windows.pieces u).foldl Position.readPart ((windows.pieces t).foldl Position.readPart p) := by
  rcases List.eq_nil_or_concat t with rfl | ⟨init, last, rfl⟩
  · rfl
  · rw [List.concat_eq_append]
    unfold closed
    rw [List.getLast?_concat]
    by_cases hlast : isSlash last = true
    · -- behind the last separator stands an empty piece, which is passed over
      rw [if_pos (by simpa using hlast), List.append_assoc, List.singleton_append,
        pieces_append_slash hlast, pieces_append_slash hlast, List.foldl_append, List.foldl_append]
      rfl
    · rw [if_neg (by simpa using hlast), List.append_assoc (init ++ [last]),
        show (("\\" : String) : Text) ++ u = backslash :: u from rfl, pieces_append_slash rfl,
        List.foldl_append]

/-! ## Positions -/

/-- **Going on where nothing lies above**: the names stay, but for the last one if the first piece is a
step up, and those that lead down come behind them. -/
theorem names_foldl_readPart {p : Position} {parts : List Text} (hfolded : p.Folded)
    (hanchored : p.Anchored) (h : Position.up ∉ parts.tail) :
    (parts.foldl Position.readPart p).names.reverse
      = (if Position.up ∈ parts then p.names.reverse.dropLast else p.names.reverse)
        ++ parts.filter (fun part => IsName part) := by
  by_cases hup : Position.up ∈ parts
  · obtain ⟨behind, rfl⟩ : ∃ behind, parts = Position.up :: behind := by
      cases parts with
      | nil => exact absurd hup List.not_mem_nil
      | cons first behind =>
        rcases List.mem_cons.mp hup with rfl | hin
        · exact ⟨behind, rfl⟩
        · exact absurd hin h
    rw [List.tail_cons] at h
    rw [if_pos hup, List.foldl_cons, Position.readPart_up, Position.goUp_of_anchored hfolded hanchored,
      Position.foldl_readPart_of_up_not_mem h, List.filter_cons_of_neg (by decide)]
    simp [List.dropLast_reverse]
  · rw [if_neg hup, Position.foldl_readPart_of_up_not_mem hup]
    simp

variable {a : CodePoint} {rest root above : Text}

/-- **The position of a path behind another** from the top of the same drive. -/
theorem position_of_closed (hroot : Drive.splitDrive root = ([a, colon], above))
    (habove : startsAtSlash above = true)
    (h : Drive.splitDrive path = ([a, colon], closed above ++ t)) :
    windows.position path = (windows.pieces t).foldl Position.readPart (windows.position root) := by
  rw [position_of_letter h, position_of_letter hroot, startsAtSlash_closed_append habove, habove,
    foldl_pieces_closed]

theorem keepsDrive_letter (h : (Drive.splitDrive path).1 = [a, colon]) : KeepsDrive path := by
  unfold KeepsDrive
  rw [h, isShare_letter]
  exact ⟨fun hshare => absurd hshare Bool.false_ne_true,
    fun hnone => absurd hnone (List.cons_ne_nil _ _)⟩

/-- On a drive there is nothing above. -/
theorem anchored_letter (h : (Drive.splitDrive path).1 = [a, colon]) :
    (windows.position path).Anchored := by
  refine Or.inr ?_
  rw [position_drive, splitDrive_windows, h]
  exact List.cons_ne_nil _ _

/-- **The names of a normal form** on a letter's drive are those of the position that it leads to. -/
theorem componentNames_normalise_letter (h : (Drive.splitDrive path).1 = [a, colon]) :
    windows.componentNames (normalise .windows path) = (windows.position path).names.reverse := by
  have hunbroken : ∀ name ∈ (windows.position path).names.reverse, backslash ∉ name :=
    fun name hname => (mem_reverse_names_windows hname).2.not_mem rfl
  have hnames : ∀ name ∈ (windows.position path).names.reverse, IsName name := by
    obtain ⟨ups, down, heq, hdown, hups⟩ := (windows.folded_position path).exists_split
    rw [heq, hups (anchored_letter h)]
    exact hdown
  have hempty : decide (IsName []) = false := by decide
  rw [componentNames_eq, parts_eq, splitDrive_windows,
    splitDrive_normalise_of_keepsDrive (keepsDrive_letter h)]
  unfold pieces
  rw [unifySeparators_of_not_mem (slash_not_mem_trail path), trail_windows]
  have hfound := (Text.filter_splitOn_joinWith hempty hunbroken).trans
    (List.filter_eq_self.mpr (fun name hname => decide_eq_true (hnames name hname)))
  -- the separator of the root adds an empty piece in front
  split
  · rw [List.singleton_append]
    exact (congrArg _ (Text.splitOn_cons_self _ _)).trans hfound
  · exact hfound

end Flavour

end WorkspacePaths
