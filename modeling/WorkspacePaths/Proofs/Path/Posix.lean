import WorkspacePaths.Path.Join
import WorkspacePaths.Proofs.Path.Fold

/-!
# `Proofs.Path.Posix` — folding paths whose one separator is a slash

Without drives and with a single separator, a path is folded by its parts alone, from a position that
says whether it begins with a slash. So a path put together from two is folded by going on with the
second where the first one leads, however many slashes stand between them.

## Contents
- **Joining.** `posixJoin` by how the tail begins; `posixJoin_startsWith`.
- **Positions.** `position_posix`; `slash_not_mem_names`.
- **Composition.** `position_append_slash`, `foldl_readPart_stripLeading`, `position_posixJoin`.
- **Normal forms.** `normalise_posix`, and `normalise_rooted` for paths that begin with a slash.
- `IsAbsoluteNormal`: what such a normal form looks like; `isAbsoluteNormal_normalise`.
-/

namespace WorkspacePaths

/-- The one separator of these paths. -/
abbrev slash : CodePoint := CodePoint.scalar '/'

/-! ## Joining -/

/-- A tail with a slash in front stands alone. -/
theorem posixJoin_of_startsWith {base tail : Text} (h : tail.startsWith [slash] = true) :
    posixJoin base tail = tail := by
  unfold posixJoin
  rw [show (("/" : String) : Text) = [slash] from rfl, if_pos h]

/-- A tail without a slash in front stands behind the base and one slash. -/
theorem posixJoin_of_not_startsWith {base tail : Text} (h : tail.startsWith [slash] = false) :
    posixJoin base tail
      = if base = [] || base.getLast? = some slash then base ++ tail else base ++ slash :: tail := by
  unfold posixJoin
  rw [show (("/" : String) : Text) = [slash] from rfl, if_neg (by simp [h]), List.append_assoc,
    List.singleton_append]

/-- Joining to a base that begins with a slash gives a path that does. -/
theorem posixJoin_startsWith {base : Text} (h : base.startsWith [slash] = true) (tail : Text) :
    (posixJoin base tail).startsWith [slash] = true := by
  obtain ⟨rest, rfl⟩ := Text.startsWith_singleton_iff.mp h
  by_cases htail : tail.startsWith [slash] = true
  · rw [posixJoin_of_startsWith htail, htail]
  · rw [posixJoin_of_not_startsWith (Bool.not_eq_true _ ▸ htail)]
    split
    · rw [Text.startsWith_append_of_ne_nil (List.cons_ne_nil _ _), h]
    · rw [Text.startsWith_append_of_ne_nil (List.cons_ne_nil _ _), h]

namespace Flavour

/-! ## Positions -/

theorem hasRoot_posix (path : Text) : posix.hasRoot path = path.startsWith [slash] := by
  simp [hasRoot, splitDrive, isShare, startsAtSeparator, separators, posix, Text.ofString]

/-- A path is folded by its parts, from the top if it begins with a slash. -/
theorem position_posix (path : Text) :
    posix.position path
      = (path.splitOn [slash]).foldl Position.readPart ⟨[], path.startsWith [slash], []⟩ := by
  rw [posix.position_eq, hasRoot_posix]
  rfl

/-- No name of a position holds a slash. -/
theorem slash_not_mem_names {path name : Text} (h : name ∈ (posix.position path).names) :
    slash ∉ name :=
  Text.not_mem_of_mem_splitOn (mem_names_position h)

theorem mem_reverse_names {path name : Text} (h : name ∈ (posix.position path).names.reverse) :
    name ≠ [] ∧ slash ∉ name :=
  ⟨(posix.folded_position path).ne_nil_of_mem (List.mem_reverse.mp h),
    slash_not_mem_names (List.mem_reverse.mp h)⟩

/-! ## Composition -/

/-- Behind a slash, folding goes on from where the text before it leads. -/
theorem position_append_slash {base : Text} (h : base ≠ []) (tail : Text) :
    posix.position (base ++ slash :: tail)
      = (tail.splitOn [slash]).foldl Position.readPart (posix.position base) := by
  rw [position_posix, position_posix, Text.splitOn_append_cons, List.foldl_append,
    Text.startsWith_append_of_ne_nil h]

theorem stripLeading_posix (t : Text) :
    posix.stripLeading t = t.dropWhile (fun c => c = slash) := by
  unfold stripLeading
  congr 1
  funext c
  simp [separators, posix, Text.ofString, slash]

/-- Slashes in front of a text change nothing for what is read. -/
theorem foldl_readPart_stripLeading (t : Text) (p : Position) :
    ((posix.stripLeading t).splitOn [slash]).foldl Position.readPart p
      = (t.splitOn [slash]).foldl Position.readPart p := by
  rw [stripLeading_posix]
  induction t with
  | nil => rfl
  | cons c rest ih =>
    by_cases hc : c = slash
    · subst hc
      rw [List.dropWhile_cons_of_pos (by simp), ih, Text.splitOn_cons_self, List.foldl_cons,
        Position.readPart_nil]
    · rw [List.dropWhile_cons_of_neg (by simpa using hc)]

theorem startsWith_stripLeading (t : Text) :
    (posix.stripLeading t).startsWith [slash] = false := by
  rw [stripLeading_posix]
  induction t with
  | nil => rfl
  | cons c rest ih =>
    by_cases hc : c = slash
    · rw [List.dropWhile_cons_of_pos (by simpa using hc)]
      exact ih
    · rw [List.dropWhile_cons_of_neg (by simpa using hc), Text.startsWith_singleton_cons]
      exact beq_eq_false_iff_ne.mpr (Ne.symm hc)

theorem stripLeading_of_not_startsWith {t : Text} (h : t.startsWith [slash] = false) :
    posix.stripLeading t = t := by
  rw [stripLeading_posix]
  cases t with
  | nil => rfl
  | cons c rest =>
    rw [Text.startsWith_singleton_cons, beq_eq_false_iff_ne] at h
    exact List.dropWhile_cons_of_neg (by simpa using Ne.symm h)

/-- **Joining is going on**: a tail that does not begin with a slash is read from where the base
leads, whether or not the base ends in a slash. -/
theorem position_posixJoin {base tail : Text} (hbase : base ≠ [])
    (htail : tail.startsWith [slash] = false) :
    posix.position (posixJoin base tail)
      = (tail.splitOn [slash]).foldl Position.readPart (posix.position base) := by
  rw [posixJoin_of_not_startsWith htail]
  by_cases hlast : base.getLast? = some slash
  · rw [if_pos (by simp [hlast])]
    obtain ⟨init, rfl⟩ := List.getLast?_eq_some_iff.mp hlast
    -- the slash at the end of the base adds an empty part, which is passed over
    rw [position_posix, position_posix, Text.startsWith_append_of_ne_nil hbase,
      List.append_assoc, List.singleton_append, Text.splitOn_append_cons, Text.splitOn_append_cons,
      List.foldl_append, List.foldl_append]
    rfl
  · rw [if_neg (by simp [hlast, hbase]), position_append_slash hbase]

/-! ## Normal forms -/

theorem normalise_posix (path : Text) :
    normalise posix path
      = (if path.startsWith [slash] then [slash] else [])
        ++ Text.joinWith [slash] (posix.position path).names.reverse := by
  unfold normalise Position.render
  rw [position_drive, position_rooted, hasRoot_posix]
  rfl

/-- The normal form of a path that begins with a slash is a slash and the names down from the top. -/
theorem normalise_rooted {path : Text} (h : path.startsWith [slash] = true) :
    ∃ names, normalise posix path = slash :: Text.joinWith [slash] names
      ∧ ∀ name ∈ names, IsName name ∧ slash ∉ name := by
  obtain ⟨ups, down, heq, hdown, hups⟩ := (posix.folded_position path).exists_split
  have hanchored : (posix.position path).Anchored := by
    refine Or.inl ?_
    rw [position_rooted, hasRoot_posix, h]
  rw [hups hanchored, List.replicate_zero, List.nil_append] at heq
  refine ⟨down, ?_, fun name hname => ⟨hdown name hname, ?_⟩⟩
  · rw [normalise_posix, h, heq]
    rfl
  · have hmem : name ∈ (posix.position path).names := by
      rw [← List.mem_reverse, heq]
      exact hname
    exact slash_not_mem_names hmem

end Flavour

/-- A path from the top in normal form: unless it is the slash alone, every part behind its first
slash leads down, and it does not end in a slash. -/
structure IsAbsoluteNormal (path : Text) : Prop where
  rooted : path.startsWith "/" = true
  parts : path ≠ ("/" : Text) → ∀ part ∈ Text.splitOn (path.drop 1) "/", IsName part
  ending : path ≠ ("/" : Text) → path.getLast? ≠ some slash

/-- A slash and names behind it make up a path in normal form. -/
theorem isAbsoluteNormal_of_names {names : List Text}
    (h : ∀ name ∈ names, IsName name ∧ slash ∉ name) :
    IsAbsoluteNormal (slash :: Text.joinWith [slash] names) := by
  have hsep : ∀ name ∈ names, slash ∉ name := fun name hname => (h name hname).2
  have hne : slash :: Text.joinWith [slash] names ≠ ("/" : Text) → names ≠ [] := by
    rintro hpath rfl
    exact hpath rfl
  refine ⟨rfl, ?_, ?_⟩
  · intro hpath part hpart
    have hsplit := Text.splitOn_joinWith (hne hpath) hsep
    rw [List.drop_one, List.tail_cons] at hpart
    exact (h part (hsplit ▸ hpart)).1
  · -- a slash at the end would be followed by an empty name
    intro hpath hlast
    have hsplit := Text.splitOn_joinWith (hne hpath) hsep
    obtain ⟨init, hinit⟩ := List.getLast?_eq_some_iff.mp hlast
    cases init with
    | nil =>
      refine hpath ?_
      rw [hinit]
      rfl
    | cons first rest =>
      rw [List.cons_append, List.cons.injEq] at hinit
      rw [hinit.2, Text.splitOn_append_cons] at hsplit
      have hempty : [] ∈ names := by
        rw [← hsplit]
        exact List.mem_append_right _ List.mem_cons_self
      exact (h [] hempty).1.ne_nil rfl

/-- **The normal form of a path from the top is one**, in the sense above. -/
theorem isAbsoluteNormal_normalise {path : Text} (h : path.startsWith [slash] = true) :
    IsAbsoluteNormal (normalise .posix path) := by
  obtain ⟨names, heq, hnames⟩ := Flavour.normalise_rooted h
  rw [heq]
  exact isAbsoluteNormal_of_names hnames

end WorkspacePaths
