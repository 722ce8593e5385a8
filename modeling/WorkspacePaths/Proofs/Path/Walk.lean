import WorkspacePaths.Path.Walk
import WorkspacePaths.Proofs.Path.Posix

/-!
# `Proofs.Path.Walk` — a normal form leads where its path leads

A path is a way from one directory to another, and two paths are the same way if they lead to the
same place from wherever one starts. Normal forms stand for ways: a path and its normal form are the
same way, and two paths that are the same way have one normal form.

The first half follows folding: at every moment, walking the names on the stack leads where walking
the parts read so far leads (`place_readPart`). For the second half two starting places tell
everything: from the top a way shows the names it goes down, and from a place deep enough how often
it climbs and whether it starts at the top (`eq_of_place_eq`).

## Contents
- **Steps.** `descend` at each kind of part, and along climbs and names.
- **Directories.** `IsDirectory`, kept by a step and by a walk; `mem_splitOn_of_mem_walk`.
- **Places.** `Position.place`, where the names of a position lead.
- **Normal forms.** `walk_eq_place`, `walk_normalise_posix`, `normalise_eq_iff_walk_eq`.
-/

namespace WorkspacePaths

variable {dir : List Text} {part : Text}

/-! ## Steps -/

theorem walk_eq (dir : List Text) (path : Text) :
    walk dir path
      = (path.splitOn [slash]).foldl descend (if path.startsWith [slash] then [] else dir) := rfl

@[simp] theorem descend_nil (dir : List Text) : descend dir [] = dir := rfl

@[simp] theorem descend_current (dir : List Text) : descend dir ("." : Text) = dir := rfl

@[simp] theorem descend_up (dir : List Text) : descend dir Position.up = dir.dropLast := rfl

theorem descend_name (h : IsName part) : descend dir part = dir ++ [part] := by
  have hup : part ≠ (".." : Text) := h.ne_up
  unfold descend
  rw [if_neg (by simp [h.ne_nil, h.ne_current]), if_neg hup]

theorem foldl_descend_ups (dir : List Text) (n : Nat) :
    (List.replicate n Position.up).foldl descend dir = dir.take (dir.length - n) := by
  induction n generalizing dir with
  | zero => simp
  | succ k ih =>
    rw [List.replicate_succ, List.foldl_cons, descend_up, ih, List.dropLast_eq_take,
      List.length_take, List.take_take]
    congr 1
    omega

theorem foldl_descend_names {names : List Text} (h : ∀ name ∈ names, IsName name) :
    names.foldl descend dir = dir ++ names := by
  induction names generalizing dir with
  | nil => simp
  | cons name rest ih =>
    rw [List.foldl_cons, descend_name (h name List.mem_cons_self),
      ih (fun other hother => h other (List.mem_cons_of_mem _ hother)), List.append_assoc,
      List.singleton_append]

/-! ## Directories -/

/-- A directory: a list of names that lead down, none of which holds a slash. -/
def IsDirectory (dir : List Text) : Prop := ∀ name ∈ dir, IsName name ∧ slash ∉ name

instance (dir : List Text) : Decidable (IsDirectory dir) :=
  inferInstanceAs (Decidable (∀ name ∈ dir, IsName name ∧ slash ∉ name))

theorem isDirectory_replicate (n : Nat) : IsDirectory (List.replicate n ("a" : Text)) := by
  intro name hname
  rw [List.eq_of_mem_replicate hname]
  exact ⟨⟨by decide, by decide, by decide⟩, by decide⟩

theorem isDirectory_descend (hdir : IsDirectory dir) (hpart : slash ∉ part) :
    IsDirectory (descend dir part) := by
  rcases part_cases part with rfl | rfl | rfl | hname
  · exact hdir
  · exact hdir
  · rw [descend_up]
    intro name hname
    exact hdir name (List.dropLast_subset dir hname)
  · rw [descend_name hname]
    intro name hin
    rcases List.mem_append.mp hin with hold | hnew
    · exact hdir name hold
    · rw [List.mem_singleton.mp hnew]
      exact ⟨hname, hpart⟩

theorem isDirectory_foldl_descend {parts : List Text} (hdir : IsDirectory dir)
    (h : ∀ part ∈ parts, slash ∉ part) : IsDirectory (parts.foldl descend dir) := by
  induction parts generalizing dir with
  | nil => exact hdir
  | cons part rest ih =>
    exact ih (isDirectory_descend hdir (h part List.mem_cons_self))
      (fun other hother => h other (List.mem_cons_of_mem _ hother))

/-- A walk from a directory leads to one. -/
theorem isDirectory_walk (hdir : IsDirectory dir) (path : Text) : IsDirectory (walk dir path) := by
  rw [walk_eq]
  apply isDirectory_foldl_descend
  · split
    · intro name hname
      exact absurd hname List.not_mem_nil
    · exact hdir
  · intro part hpart
    exact Text.not_mem_of_mem_splitOn hpart

/-- A step leads to no name but those before and the one that it goes to. -/
theorem mem_descend {name : Text} (h : name ∈ descend dir part) : name ∈ dir ∨ name = part := by
  rcases part_cases part with rfl | rfl | rfl | hname
  · exact Or.inl h
  · exact Or.inl h
  · exact Or.inl (List.dropLast_subset dir (descend_up dir ▸ h))
  · rw [descend_name hname, List.mem_append, List.mem_singleton] at h
    exact h

/-- A walk from the top leads through parts of its path only. -/
theorem mem_splitOn_of_mem_walk {name path : Text} (h : name ∈ walk [] path) :
    name ∈ path.splitOn [slash] := by
  have hparts : ∀ (parts dir : List Text), name ∈ parts.foldl descend dir →
      name ∈ dir ∨ name ∈ parts := by
    intro parts
    induction parts with
    | nil => exact fun dir hdir => Or.inl hdir
    | cons part rest ih =>
      intro dir hin
      rw [List.mem_cons]
      rcases ih (descend dir part) hin with hstep | hrest
      · rcases mem_descend hstep with hdir | hpart
        · exact Or.inl hdir
        · exact Or.inr (Or.inl hpart)
      · exact Or.inr (Or.inr hrest)
  rw [walk_eq, ite_self] at h
  exact (hparts _ [] h).resolve_left List.not_mem_nil

/-! ## Places -/

namespace Position

/-- Where the names of a position lead from a directory. -/
def place (p : Position) (dir : List Text) : List Text :=
  p.names.reverse.foldl descend (if p.rooted then [] else dir)

theorem place_of_names {p : Position} {name : Text} {names : List Text} (dir : List Text)
    (h : p.names = name :: names) :
    p.place dir = descend (place ⟨p.drive, p.rooted, names⟩ dir) name := by
  unfold place
  rw [h, List.reverse_cons, List.foldl_append]
  rfl

theorem place_push (p : Position) (name : Text) (dir : List Text) :
    { p with names := name :: p.names }.place dir = descend (p.place dir) name :=
  place_of_names dir rfl

theorem place_keepUp {p : Position} (hdrive : p.drive = []) (hempty : p.rooted = true → p.names = [])
    (dir : List Text) : p.keepUp.place dir = (p.place dir).dropLast := by
  by_cases ha : p.Anchored
  · have hrooted : p.rooted = true := ha.resolve_right (fun h => h hdrive)
    rw [keepUp_of_anchored ha]
    unfold place
    rw [hempty hrooted, hrooted]
    rfl
  · rw [keepUp_of_not_anchored ha, place_push, descend_up]

/-- Going up leads one directory up. -/
theorem place_goUp {p : Position} (hdrive : p.drive = []) (h : p.Folded) (dir : List Text) :
    p.goUp.place dir = (p.place dir).dropLast := by
  cases hnames : p.names with
  | nil =>
    rw [goUp_of_nil hnames]
    exact place_keepUp hdrive (fun _ => hnames) dir
  | cons first rest =>
    unfold Folded at h
    rw [hnames] at h
    cases h with
    | up hna _ =>
      rw [goUp_of_up hnames]
      exact place_keepUp hdrive (fun hrooted => absurd (Or.inl hrooted) hna) dir
    | name hname _ =>
      rw [goUp_of_name hnames hname, place_of_names dir hnames, descend_name hname,
        List.dropLast_concat]

/-- **One step**: reading a part leads where walking it leads. -/
theorem place_readPart {p : Position} (hdrive : p.drive = []) (h : p.Folded) (part : Text)
    (dir : List Text) : (p.readPart part).place dir = descend (p.place dir) part := by
  rcases part_cases part with rfl | rfl | rfl | hname
  · rfl
  · rfl
  · exact place_goUp hdrive h dir
  · rw [readPart_name hname, place_push]

/-- **A run**: reading parts leads where walking them leads. -/
theorem place_foldl_readPart (parts : List Text) {p : Position} (hdrive : p.drive = [])
    (h : p.Folded) (dir : List Text) :
    (parts.foldl readPart p).place dir = parts.foldl descend (p.place dir) := by
  induction parts generalizing p with
  | nil => rfl
  | cons part rest ih =>
    rw [List.foldl_cons, List.foldl_cons, ← place_readPart hdrive h part dir]
    exact ih ((readPart_drive p part).trans hdrive) (folded_readPart h part)

/-- Where a position leads, by how often it climbs and the names that it goes down. -/
theorem place_eq {p : Position} {ups : Nat} {down : List Text}
    (heq : p.names.reverse = List.replicate ups up ++ down) (hdown : ∀ name ∈ down, IsName name)
    (dir : List Text) :
    p.place dir = (if p.rooted then [] else dir.take (dir.length - ups)) ++ down := by
  unfold place
  rw [heq, List.foldl_append, foldl_descend_ups, foldl_descend_names hdown]
  split <;> simp

/-- Positions that lead to the same place from every directory are the same. -/
theorem eq_of_place_eq {p q : Position} (hp : p.Folded) (hq : q.Folded) (hdp : p.drive = [])
    (hdq : q.drive = []) (h : ∀ dir, IsDirectory dir → p.place dir = q.place dir) : p = q := by
  obtain ⟨ups, down, heq, hdown, hups⟩ := hp.exists_split
  obtain ⟨ups', down', heq', hdown', hups'⟩ := hq.exists_split
  -- from the top, both show the names that they go down
  have htop : down = down' := by
    have := h [] (isDirectory_replicate 0)
    rw [place_eq heq hdown, place_eq heq' hdown'] at this
    simpa using this
  -- from deep enough, the places differ in depth unless both climb alike
  have hdeep := congrArg List.length (h _ (isDirectory_replicate (ups + ups' + 1)))
  rw [place_eq heq hdown, place_eq heq' hdown', htop, List.length_append, List.length_append,
    Nat.add_right_cancel_iff, List.length_replicate] at hdeep
  have hrooted : p.rooted = q.rooted ∧ ups = ups' := by
    cases hrp : p.rooted <;> cases hrq : q.rooted <;> simp [hrp, hrq] at hdeep
    · exact ⟨rfl, by omega⟩
    · omega
    · omega
    · exact ⟨rfl, (hups (Or.inl hrp)).trans (hups' (Or.inl hrq)).symm⟩
  have hnames : p.names = q.names := by
    rw [← List.reverse_inj, heq, heq', hrooted.2, htop]
  obtain ⟨drive, rooted, names⟩ := p
  obtain ⟨drive', rooted', names'⟩ := q
  simp only at hdp hdq hrooted hnames
  rw [hdp, hdq, hrooted.1, hnames]

end Position

/-! ## Normal forms -/

/-- **A path leads where its position leads.** -/
theorem walk_eq_place (dir : List Text) (path : Text) :
    walk dir path = (Flavour.posix.position path).place dir := by
  rw [Flavour.position_posix]
  have hstart : Position.Folded ⟨[], path.startsWith [slash], []⟩ := Stack.nil
  exact (Position.place_foldl_readPart _ rfl hstart dir).symm

/-- **A normal form leads where its path leads**, from every directory. -/
theorem walk_normalise_posix (dir : List Text) (path : Text) :
    walk dir (normalise .posix path) = walk dir path := by
  have hmem : ∀ name ∈ (Flavour.posix.position path).names.reverse, name ≠ [] ∧ slash ∉ name :=
    fun name hname => Flavour.mem_reverse_names hname
  have hsep : ∀ name ∈ (Flavour.posix.position path).names.reverse, slash ∉ name :=
    fun name hname => (hmem name hname).2
  rw [walk_eq_place dir path, Flavour.normalise_posix, walk_eq]
  unfold Position.place
  rw [Flavour.position_rooted, Flavour.hasRoot_posix]
  by_cases hroot : path.startsWith [slash] = true
  · rw [if_pos hroot, if_pos hroot, List.singleton_append, Text.startsWith_singleton_cons,
      if_pos (beq_self_eq_true slash), Text.splitOn_cons_self, List.foldl_cons, descend_nil,
      Text.foldl_splitOn_joinWith descend_nil hsep]
  · rw [if_neg hroot, if_neg hroot, List.nil_append, Text.startsWith_joinWith hmem,
      Text.foldl_splitOn_joinWith descend_nil hsep]
    rfl

/-- **Normal forms stand for ways.** Two paths have the same normal form exactly when they lead to
the same place from every directory, for which well-formed directories are enough; and a normal form
leads where its path leads. -/
theorem normalise_eq_iff_walk_eq (p q : Text) :
    (normalise .posix p = normalise .posix q ↔ ∀ dir, walk dir p = walk dir q)
      ∧ (normalise .posix p = normalise .posix q ↔ ∀ dir, IsDirectory dir → walk dir p = walk dir q)
      ∧ ∀ dir, walk dir (normalise .posix p) = walk dir p := by
  have hsound : normalise .posix p = normalise .posix q → ∀ dir, walk dir p = walk dir q := by
    intro h dir
    rw [← walk_normalise_posix dir p, h, walk_normalise_posix]
  have hcomplete : (∀ dir, IsDirectory dir → walk dir p = walk dir q) →
      normalise .posix p = normalise .posix q := by
    intro h
    have hposition : Flavour.posix.position p = Flavour.posix.position q := by
      refine Position.eq_of_place_eq (Flavour.folded_position _ p) (Flavour.folded_position _ q)
        (Flavour.position_drive _ p) (Flavour.position_drive _ q) (fun dir hdir => ?_)
      rw [← walk_eq_place, ← walk_eq_place, h dir hdir]
    unfold normalise
    rw [hposition]
  refine ⟨⟨hsound, ?_⟩, ⟨?_, hcomplete⟩, ?_⟩
  · intro h
    exact hcomplete (fun dir _ => h dir)
  · intro h dir _
    exact hsound h dir
  · intro dir
    exact walk_normalise_posix dir p

end WorkspacePaths
