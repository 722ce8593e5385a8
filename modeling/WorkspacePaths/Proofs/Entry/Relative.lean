import WorkspacePaths.Proofs.Entry.Anchor
import WorkspacePaths.Proofs.Host.Roots

/-!
# `Proofs.Entry.Relative` — how far a relative entry leads from the workspace root

A relative entry has a normal form of its own: so many steps up, and then names down. Behind a root the
same entry is folded by another rule, as there a step up takes a name away, and above the top none is
left to take. Walking joins the two. Where a joined path leads is where the tail leads from where the
base does, and a tail leads where its normal form leads. So the steps up take as many names off the root
as there are, and the names down come behind what is left.

## Contents
- **Ways.** `walk_posixJoin`, and `walk_ups`, a climb with names behind it.
- **Normal forms.** `normalise_of_startsWith`: below the top a normal form is where its path leads;
  `exists_ups_normalise`: the shape of a relative one.
- `relativePart`: what an entry holds behind `./`, or all of it.
- `normalise_anchor_relative`: where relative entries lead; `normalise_anchor_past_top` for one that
  climbs past the top.
-/

namespace WorkspacePaths

variable {dir names : List Text} {base tail path : Text}

/-! ## Ways -/

/-- **The way along a joined path** is the way along the tail from where the base leads. -/
theorem walk_posixJoin (hbase : base ≠ []) (htail : tail.startsWith [slash] = false)
    (dir : List Text) : walk dir (posixJoin base tail) = walk (walk dir base) tail := by
  have hfolded := Flavour.folded_position .posix base
  rw [walk_eq_place dir, Flavour.position_posixJoin hbase htail,
    Position.place_foldl_readPart _ (Flavour.position_drive _ base) hfolded, ← walk_eq_place,
    walk_eq (walk dir base) tail, htail]
  rfl

/-- A climb with names behind it takes as many names away as there are, and adds the names. -/
theorem walk_ups (ups : Nat) (hnames : IsDirectory names) (dir : List Text) :
    walk dir (Text.joinWith [slash] (List.replicate ups Position.up ++ names))
      = dir.take (dir.length - ups) ++ names := by
  have hparts : ∀ part ∈ List.replicate ups Position.up ++ names, part ≠ [] ∧ slash ∉ part := by
    intro part hpart
    rcases List.mem_append.mp hpart with hup | hname
    · rw [List.eq_of_mem_replicate hup]
      decide
    · exact ⟨(hnames part hname).1.ne_nil, (hnames part hname).2⟩
  have hstart := Text.startsWith_joinWith hparts
  rw [walk_eq, hstart, Text.foldl_splitOn_joinWith descend_nil (fun part hpart => (hparts part hpart).2),
    List.foldl_append]
  show names.foldl descend ((List.replicate ups Position.up).foldl descend dir) = _
  rw [foldl_descend_ups, foldl_descend_names (fun name hname => (hnames name hname).1)]

/-! ## Normal forms -/

/-- **Below the top**, the normal form of a path is a slash and the names down to where it leads. -/
theorem normalise_of_startsWith (h : path.startsWith [slash] = true) :
    normalise .posix path = slash :: Text.joinWith [slash] (walk [] path) := by
  obtain ⟨names, heq, hnames⟩ := Flavour.normalise_rooted h
  have hwalk : walk [] path = names := by
    rw [← walk_normalise_posix, heq]
    exact walk_spelling (Or.inl rfl) hnames
  rw [heq, hwalk]

/-- The normal form of a relative path leads up some times, and then down. -/
theorem exists_ups_normalise (h : path.startsWith [slash] = false) :
    ∃ ups names, IsDirectory names
      ∧ normalise .posix path
        = Text.joinWith [slash] (List.replicate ups Position.up ++ names) := by
  obtain ⟨ups, down, heq, hdown, _⟩ := (Flavour.folded_position .posix path).exists_split
  refine ⟨ups, down, fun name hname => ⟨hdown name hname, ?_⟩, ?_⟩
  · have hmem : name ∈ (Flavour.posix.position path).names.reverse := by
      rw [heq]
      exact List.mem_append_right _ hname
    exact (Flavour.mem_reverse_names hmem).2
  · rw [Flavour.normalise_posix, h, heq]
    rfl

/-! ## Relative entries -/

/-- What an entry holds behind `./` and the slashes after it; an entry without that mark is all of it. -/
def relativePart (entry : Text) : Text :=
  if entry.startsWith "./" then (entry.drop 2).dropWhile (fun c => c = slash) else entry

/-- An entry that begins with neither a tilde nor a slash stands behind the workspace root, as its
relative part. -/
theorem anchor_relative (env : Environment) (root : Text) {entry : Text}
    (htilde : entry.startsWith [tilde] = false) (hslash : entry.startsWith [slash] = false) :
    anchor env .posix root entry = some (posixJoin root (relativePart entry))
      ∧ (relativePart entry).startsWith [slash] = false := by
  unfold relativePart anchor
  by_cases hcurrent : entry.startsWith "./" = true
  · obtain ⟨rest, rfl⟩ := startsWith_current_iff.mp hcurrent
    rw [if_pos hcurrent, Anchor.ofText_current]
    show some (posixJoin root (Flavour.posix.stripLeading rest)) = _ ∧ _
    rw [← Flavour.startsWith_stripLeading rest, Flavour.stripLeading_posix]
    exact ⟨rfl, rfl⟩
  · have hno : ∀ rest, entry ≠ dot :: slash :: rest :=
      fun rest heq => hcurrent (startsWith_current_iff.mpr ⟨rest, heq⟩)
    rw [if_neg hcurrent, Anchor.ofText_of_no_mark htilde hno, Anchor.isAbsolute_posix, hslash]
    exact ⟨rfl, rfl⟩

/-- **A relative entry acts on the root as its own normal form says.** The root has a normal form, which
is a slash and names, and the relative part of the entry has one, which is so many steps up and then
names. For any root and entry with such normal forms, the entry leads to what is left of the root's
names when as many of them are taken away, or all, and to the entry's names behind that. So an entry
without steps up leads to the root or below it. -/
theorem normalise_anchor_relative (env : Environment) {root entry : Text}
    (hroot : root.startsWith "/" = true) (htilde : entry.startsWith "~" = false)
    (hslash : entry.startsWith "/" = false) :
    (∃ above ups below, IsDirectory above ∧ IsDirectory below
      ∧ normalise .posix root = ("/" : Text) ++ Text.joinWith "/" above
      ∧ normalise .posix (relativePart entry)
        = Text.joinWith "/" (List.replicate ups (".." : Text) ++ below))
    ∧ ∀ above ups below, IsDirectory above → IsDirectory below →
      normalise .posix root = ("/" : Text) ++ Text.joinWith "/" above →
      normalise .posix (relativePart entry)
        = Text.joinWith "/" (List.replicate ups (".." : Text) ++ below) →
      ∃ path, anchor env .posix root entry = some path
        ∧ normalise .posix path
          = ("/" : Text) ++ Text.joinWith "/" (above.take (above.length - ups) ++ below)
        ∧ (ups = 0 → above <+: walk [] path) := by
  obtain ⟨hanchor, hrelative⟩ := anchor_relative env root htilde hslash
  have hne : root ≠ [] := by
    rintro rfl
    exact absurd hroot Bool.false_ne_true
  constructor
  · obtain ⟨above, habove, hdirectory⟩ := Flavour.normalise_rooted hroot
    obtain ⟨ups, below, hbelow, hnormal⟩ := exists_ups_normalise hrelative
    exact ⟨above, ups, below, hdirectory, hbelow, habove, hnormal⟩
  · intro above ups below habove hbelow hnormal hrest
    -- the names of the root are where it leads, and the rest leads from there
    have htop : walk [] root = above := by
      rw [← walk_normalise_posix, hnormal]
      exact walk_spelling (Or.inl rfl) habove
    have hwalk : walk [] (posixJoin root (relativePart entry))
        = above.take (above.length - ups) ++ below := by
      rw [walk_posixJoin hne hrelative, htop, ← walk_normalise_posix, hrest]
      exact walk_ups ups hbelow above
    refine ⟨_, hanchor, ?_, ?_⟩
    · rw [normalise_of_startsWith (posixJoin_startsWith hroot _), hwalk]
      rfl
    · rintro rfl
      rw [hwalk, Nat.sub_zero, List.take_length]
      exact List.prefix_append above below

/-- An entry that climbs past the top of an untidy root and comes down again. -/
theorem normalise_anchor_past_top :
    ∃ path, anchor (Environment.ofBindings [] none) .posix "/r//a/../b/" ".//../x/../../../c" = some path
      ∧ normalise .posix path = ("/c" : Text) := by
  have hroot : Text.startsWith "/r//a/../b/" "/" = true := rfl
  have htilde : Text.startsWith ".//../x/../../../c" "~" = false := rfl
  have hslash : Text.startsWith ".//../x/../../../c" "/" = false := rfl
  obtain ⟨path, hanchor, hnormal, _⟩ :=
    (normalise_anchor_relative (Environment.ofBindings [] none) hroot htilde hslash).2
      ["r", "b"] 3 ["c"] (by decide) (by decide) (by decide) (by decide)
  exact ⟨path, hanchor, hnormal⟩

end WorkspacePaths
