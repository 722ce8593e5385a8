import Mathlib.Tactic.TFAE
import WorkspacePaths.Proofs.Path.Separators

/-!
# `Proofs.Path.Driveless` — normal forms where there are no drives

Where paths lie on no drive, a path is rooted or not, and then there are its names. A normal form writes
just that: one separator if the path is rooted, and the names with one separator between each two. Read
again it comes out the same, because the names hold no separators and so are found again, and because a
stack of names is read as itself. The separators may be any code points, dots among them. Then no part
of a path is `.` or `..`, and nothing is ever folded away but empty parts.

## Contents
- `IsNormalForm`: what a normal form looks like.
- **Reading a normal form.** `startsAtSeparator_spelling`, `unifySeparators_spelling` and
  `position_spelling`: the position that a text of this form leads to.
- `isNormalForm_tfae`: a text is the normal form of some path exactly if it is its own, and exactly if it
  looks like one; so normalising is idempotent. `isNormalForm_tfae_of_dots` for a flavour whose
  separators are dots and colons.
-/

namespace WorkspacePaths

namespace Flavour

variable {f : Flavour} {sep : CodePoint} {rooted : Bool} {names : List Text} {path t : Text}

/-- What a normal form looks like where there are no drives: a separator or none, and behind it names with
separators between them. Behind a separator there are no steps up. -/
def IsNormalForm (f : Flavour) (t : Text) : Prop :=
  ∃ (rooted : Bool) (names : List Text), f.NormalNames (rooted = true) names
    ∧ t = (if rooted then f.separator else []) ++ Text.joinWith f.separator names

/-! ## Reading a normal form -/

theorem splitDrive_of_drives_eq_false (h : f.drives = false) (path : Text) :
    f.splitDrive path = ([], path) := by
  unfold splitDrive
  rw [h]
  rfl

theorem hasRoot_of_drives_eq_false (h : f.drives = false) (path : Text) :
    f.hasRoot path = f.startsAtSeparator path := by
  unfold hasRoot
  rw [splitDrive_of_drives_eq_false h]
  rfl

/-- Such a text begins with a separator exactly if one is written in front of the names. -/
theorem startsAtSeparator_spelling (hsingle : f.SingleSeparators) (hsep : f.separator = [sep])
    (h : f.NormalNames (rooted = true) names) :
    f.startsAtSeparator ((if rooted then [sep] else []) ++ Text.joinWith [sep] names) = rooted := by
  cases rooted with
  | true =>
    have hmem : [sep] ∈ f.separators := hsep ▸ List.mem_cons_self
    exact (startsAtSeparator_cons_iff hsingle).mpr hmem
  | false =>
    cases names with
    | nil => exact startsAtSeparator_nil hsingle
    | cons first rest =>
      -- the first name is not empty, and its first code point is no separator
      obtain ⟨c, more, rfl⟩ :=
        List.exists_cons_of_ne_nil (h.ne_nil_of_mem (List.mem_cons_self (a := first)))
      have hfree : [c] ∉ f.separators := h.undivided _ List.mem_cons_self c List.mem_cons_self
      rw [← Bool.not_eq_true, Text.joinWith_cons_flatMap]
      intro hstart
      exact hfree ((startsAtSeparator_cons_iff hsingle).mp hstart)

/-- In such a text every separator is the one that is written. -/
theorem unifySeparators_spelling (hsingle : f.SingleSeparators) (hsep : f.separator = [sep])
    (h : f.NormalNames (rooted = true) names) :
    f.unifySeparators ((if rooted then [sep] else []) ++ Text.joinWith [sep] names)
      = (if rooted then [sep] else []) ++ Text.joinWith [sep] names := by
  rw [unifySeparators_eq_map hsingle hsep]
  refine (List.map_congr_left (fun c hc => ?_)).trans (List.map_id _)
  have hcases : c = sep ∨ [c] ∉ f.separators := by
    rcases List.mem_append.mp hc with hfront | hjoined
    · split at hfront
      · exact Or.inl (List.mem_singleton.mp hfront)
      · exact absurd hfront List.not_mem_nil
    · rcases Text.mem_or_exists_of_mem_joinWith hjoined with hin | ⟨name, hname, hin⟩
      · exact Or.inl (List.mem_singleton.mp hin)
      · exact Or.inr (h.undivided name hname c hin)
  rcases hcases with rfl | hfree
  · exact ite_self _
  · exact if_neg hfree

/-- **A text of this form leads to its own names** when it is read. -/
theorem position_spelling (hdrives : f.drives = false) (hsingle : f.SingleSeparators)
    (h : f.NormalNames (rooted = true) names) :
    f.position ((if rooted then f.separator else []) ++ Text.joinWith f.separator names)
      = ⟨[], rooted, names.reverse⟩ := by
  obtain ⟨sep, hsep⟩ := hsingle.exists_separator
  have hrender : Position.render f ⟨[], rooted, names.reverse⟩
      = (if rooted then [sep] else []) ++ Text.joinWith [sep] names := by
    unfold Position.render
    rw [hsep, List.reverse_reverse]
    rfl
  have htrail : Position.trail f ⟨[], rooted, names.reverse⟩
      = (if rooted then [sep] else []) ++ Text.joinWith [sep] names := by
    rw [← hrender, Position.render_eq]
    rfl
  have hfolded : Position.Folded ⟨[], rooted, names.reverse⟩ := by
    have hanchored : Position.Anchored ⟨[], rooted, names.reverse⟩ ↔ rooted = true := by
      simp [Position.Anchored]
    unfold Position.Folded
    rw [hanchored]
    exact h.stack
  have hnames : ∀ name ∈ names.reverse, sep ∉ name := by
    intro name hname hmem
    have hfree := h.undivided name (List.mem_reverse.mp hname) sep hmem
    exact hfree (hsep ▸ List.mem_cons_self)
  have hroot : f.hasRoot (Position.render f ⟨[], rooted, names.reverse⟩) = rooted := by
    rw [hasRoot_of_drives_eq_false hdrives, hrender, startsAtSeparator_spelling hsingle hsep h]
  have hunify := unifySeparators_spelling hsingle hsep h
  rw [← htrail] at hunify
  have hsplit : f.splitDrive (Position.render f ⟨[], rooted, names.reverse⟩)
      = ([], Position.trail f ⟨[], rooted, names.reverse⟩) := by
    rw [splitDrive_of_drives_eq_false hdrives, hrender, htrail]
  have hposition := position_render hsep hfolded hnames hsplit hroot hunify
  rw [hrender] at hposition
  rw [hsep]
  exact hposition

/-! ## Normal forms -/

/-- The normal form of a path is a separator, if the path has a root, and its names. -/
theorem normalise_of_drives_eq_false (hdrives : f.drives = false) (path : Text) :
    normalise f path
      = (if f.hasRoot path then f.separator else [])
        ++ Text.joinWith f.separator (f.position path).names.reverse := by
  unfold normalise
  rw [Position.render_eq, position_drive, splitDrive_of_drives_eq_false hdrives, List.nil_append]
  unfold Position.trail
  rw [position_rooted]

theorem normalNames_of_drives_eq_false (hdrives : f.drives = false) (hsingle : f.SingleSeparators)
    (path : Text) : f.NormalNames (f.hasRoot path = true) (f.position path).names.reverse := by
  have hanchored : (f.position path).Anchored ↔ f.hasRoot path = true := by
    unfold Position.Anchored
    rw [position_rooted, position_drive, splitDrive_of_drives_eq_false hdrives]
    exact or_iff_left (fun hne => hne rfl)
  rw [← hanchored]
  exact normalNames_position hsingle path

/-- **A normal form leads to the position that it was written from**, where there are no drives. -/
theorem position_normalise_of_drives_eq_false (hdrives : f.drives = false)
    (hsingle : f.SingleSeparators) (path : Text) :
    f.position (normalise f path) = f.position path := by
  have hdrive : (f.position path).drive = [] := by
    rw [position_drive, splitDrive_of_drives_eq_false hdrives]
  rw [normalise_of_drives_eq_false hdrives,
    position_spelling hdrives hsingle (normalNames_of_drives_eq_false hdrives hsingle path),
    List.reverse_reverse, ← position_rooted, ← hdrive]

/-- **Which texts are normal forms**, where there are no drives and every separator is one code point. To be
the normal form of some path, to be one's own normal form and to look like a normal form is all the same.
So the normal form of any path is its own. -/
theorem isNormalForm_tfae (hdrives : f.drives = false) (hsingle : f.SingleSeparators) (t : Text) :
    [∃ path, t = normalise f path, normalise f t = t, f.IsNormalForm t].TFAE
      ∧ normalise f (normalise f t) = normalise f t := by
  have hlooks : ∀ path, f.IsNormalForm (normalise f path) := fun path =>
    ⟨_, _, normalNames_of_drives_eq_false hdrives hsingle path, normalise_of_drives_eq_false hdrives path⟩
  have hkept : ∀ s, f.IsNormalForm s → normalise f s = s := by
    rintro s ⟨rooted, names, hnames, rfl⟩
    unfold normalise
    rw [position_spelling hdrives hsingle hnames]
    unfold Position.render
    rw [List.reverse_reverse]
    rfl
  constructor
  · tfae_have 1 → 3 := by
      rintro ⟨path, rfl⟩
      exact hlooks path
    tfae_have 3 → 2 := hkept t
    tfae_have 2 → 1 := fun h => ⟨t, h.symm⟩
    tfae_finish
  · exact hkept _ (hlooks t)

/-- Where dots and colons separate names, two dots are no step up, but separators with nothing between
them. Where only a slash does, they are one, and stay in front of a path that is not rooted. -/
theorem isNormalForm_tfae_of_dots :
    let dotted : Flavour := { separator := ".", alternatives := [":"] }
    (dotted.drives = false ∧ dotted.SingleSeparators
      ∧ dotted.IsNormalForm ".a.b" ∧ normalise dotted (normalise dotted ":a..:b.") = ".a.b")
    ∧ posix.drives = false ∧ posix.SingleSeparators
      ∧ posix.IsNormalForm "../b" ∧ normalise .posix (normalise .posix "a/../../b/.") = "../b" := by
  intro dotted
  have hdotted : normalise dotted ":a..:b." = ".a.b" := by decide
  have hposix : normalise .posix "a/../../b/." = "../b" := by decide
  have hsingle : dotted.SingleSeparators := by decide
  have hslash : posix.SingleSeparators := by decide
  have hlooks := (isNormalForm_tfae (f := dotted) rfl hsingle ".a.b").1.out 0 2
  have hlooksPosix := (isNormalForm_tfae (f := posix) rfl hslash "../b").1.out 0 2
  refine ⟨⟨rfl, hsingle, hlooks.mp ⟨_, hdotted.symm⟩, ?_⟩,
    rfl, hslash, hlooksPosix.mp ⟨_, hposix.symm⟩, ?_⟩
  · rw [(isNormalForm_tfae rfl hsingle ":a..:b.").2, hdotted]
  · rw [(isNormalForm_tfae rfl hslash "a/../../b/.").2, hposix]

end Flavour

end WorkspacePaths
