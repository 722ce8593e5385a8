import WorkspacePaths.Path.Normal
import WorkspacePaths.Proofs.Text.Parts

/-!
# `Proofs.Path.Fold` — what folding a path keeps

Folding reads the parts of a path one after another and keeps a stack of names. Whatever the
flavour, two things hold at every moment: the stack is made of names that lead down, with `..` only
below all of them and only where something lies above (`Stack`), and the drive and the root are those
that the path begins with.

## Contents
- **Parts.** `IsName`, and `Position.readPart`, one step of folding, with a lemma for each kind of
  part (`part_cases`); `foldl_readPart_names_congr`, that it depends on drive and root only by whether
  anything lies above.
- **The stack.** `Stack`, kept by a step (`folded_readPart`) and by a run (`folded_position`);
  `Stack.exists_split` takes it apart, `goUp_of_anchored` goes up on it.
- **Origin.** `mem_names_position`: a name on the stack is a part of the path.
- **Reading again.** `foldl_readPart_of_up_not_mem`: parts that go up nowhere come on top;
  `foldl_readPart_reverse`: reading the names of a stack gives the stack;
  `position_render`: reading the path to a position leads there, if its drive is found again.
-/

namespace WorkspacePaths

/-! ## Parts -/

/-- A part that leads down: not empty, and neither `.` nor `..`. -/
structure IsName (part : Text) : Prop where
  ne_nil : part ≠ []
  ne_current : part ≠ ("." : Text)
  ne_up : part ≠ Position.up

instance (part : Text) : Decidable (IsName part) :=
  decidable_of_iff (part ≠ [] ∧ part ≠ ("." : Text) ∧ part ≠ Position.up)
    ⟨fun h => ⟨h.1, h.2.1, h.2.2⟩, fun h => ⟨h.ne_nil, h.ne_current, h.ne_up⟩⟩

/-- A part is empty, stays, leads up, or leads down. -/
theorem part_cases (part : Text) :
    part = [] ∨ part = ("." : Text) ∨ part = Position.up ∨ IsName part := by
  by_cases hnil : part = []
  · exact Or.inl hnil
  · by_cases hcur : part = ("." : Text)
    · exact Or.inr (Or.inl hcur)
    · by_cases hup : part = Position.up
      · exact Or.inr (Or.inr (Or.inl hup))
      · exact Or.inr (Or.inr (Or.inr ⟨hnil, hcur, hup⟩))

theorem Flavour.classify_of_isName {part : Text} (h : IsName part) :
    classify part = some (.name part) := by
  have hup : part ≠ (".." : Text) := h.ne_up
  unfold classify
  rw [if_neg h.ne_nil, if_neg h.ne_current, if_neg hup]

/-- The parts between the separators of a path, behind its drive. -/
def Flavour.parts (f : Flavour) (path : Text) : List Text :=
  (f.unifySeparators (f.splitDrive path).2).splitOn f.separator

namespace Position

/-- Reads one part of a path. -/
def readPart (p : Position) (part : Text) : Position :=
  match Flavour.classify part with
  | none => p
  | some component => p.step component

@[simp] theorem readPart_nil (p : Position) : p.readPart [] = p := rfl

@[simp] theorem readPart_current (p : Position) : p.readPart ("." : Text) = p := rfl

@[simp] theorem readPart_up (p : Position) : p.readPart up = p.goUp := rfl

theorem readPart_name {p : Position} {part : Text} (h : IsName part) :
    p.readPart part = { p with names := part :: p.names } := by
  unfold readPart
  rw [Flavour.classify_of_isName h]
  rfl

theorem foldl_step_classify (parts : List Text) (p : Position) :
    (parts.filterMap Flavour.classify).foldl step p = parts.foldl readPart p := by
  induction parts generalizing p with
  | nil => rfl
  | cons part rest ih =>
    rw [List.filterMap_cons, List.foldl_cons]
    unfold readPart
    cases hc : Flavour.classify part with
    | none => exact ih p
    | some component => exact ih (p.step component)

theorem goUp_of_up {p : Position} {rest : List Text} (h : p.names = up :: rest) :
    p.goUp = p.keepUp := by
  unfold goUp
  rw [h]
  exact if_pos rfl

theorem goUp_of_nil {p : Position} (h : p.names = []) : p.goUp = p.keepUp := by
  unfold goUp
  rw [h]

theorem goUp_of_name {p : Position} {name : Text} {rest : List Text}
    (h : p.names = name :: rest) (hname : IsName name) : p.goUp = { p with names := rest } := by
  unfold goUp
  rw [h]
  exact if_neg hname.ne_up

/-- Nothing lies above the place where the names begin. -/
def Anchored (p : Position) : Prop := p.rooted = true ∨ p.drive ≠ []

theorem keepUp_of_anchored {p : Position} (h : p.Anchored) : p.keepUp = p := by
  unfold keepUp
  exact if_pos (by simpa [Anchored] using h)

theorem keepUp_of_not_anchored {p : Position} (h : ¬ p.Anchored) :
    p.keepUp = { p with names := up :: p.names } := by
  unfold keepUp
  exact if_neg (by simpa [Anchored] using h)

/-- Reading a part changes nothing but the names. -/
theorem readPart_eq (p : Position) (part : Text) :
    ∃ names, p.readPart part = { p with names } := by
  have hkeep : ∃ names, p.keepUp = { p with names } := by
    by_cases ha : p.Anchored
    · exact ⟨p.names, keepUp_of_anchored ha⟩
    · exact ⟨up :: p.names, keepUp_of_not_anchored ha⟩
  rcases part_cases part with rfl | rfl | rfl | hname
  · exact ⟨p.names, rfl⟩
  · exact ⟨p.names, rfl⟩
  · rw [readPart_up]
    unfold goUp
    split
    · split
      · exact hkeep
      · exact ⟨_, rfl⟩
    · exact hkeep
  · exact ⟨part :: p.names, readPart_name hname⟩

@[simp] theorem readPart_drive (p : Position) (part : Text) :
    (p.readPart part).drive = p.drive := by
  obtain ⟨names, h⟩ := readPart_eq p part
  rw [h]

@[simp] theorem readPart_rooted (p : Position) (part : Text) :
    (p.readPart part).rooted = p.rooted := by
  obtain ⟨names, h⟩ := readPart_eq p part
  rw [h]

@[simp] theorem foldl_readPart_drive (parts : List Text) (p : Position) :
    (parts.foldl readPart p).drive = p.drive := by
  induction parts generalizing p with
  | nil => rfl
  | cons part rest ih => rw [List.foldl_cons, ih, readPart_drive]

@[simp] theorem foldl_readPart_rooted (parts : List Text) (p : Position) :
    (parts.foldl readPart p).rooted = p.rooted := by
  induction parts generalizing p with
  | nil => rfl
  | cons part rest ih => rw [List.foldl_cons, ih, readPart_rooted]

/-! What is read depends on the drive and the root only by whether anything lies above. -/

theorem keepUp_names_congr {p q : Position} (hnames : p.names = q.names)
    (h : p.Anchored ↔ q.Anchored) : p.keepUp.names = q.keepUp.names := by
  by_cases hp : p.Anchored
  · rw [keepUp_of_anchored hp, keepUp_of_anchored (h.mp hp), hnames]
  · have hq : ¬ q.Anchored := fun hq => hp (h.mpr hq)
    rw [keepUp_of_not_anchored hp, keepUp_of_not_anchored hq, hnames]

theorem readPart_names_congr {p q : Position} (hnames : p.names = q.names)
    (h : p.Anchored ↔ q.Anchored) (part : Text) :
    (p.readPart part).names = (q.readPart part).names := by
  have hkeep := keepUp_names_congr hnames h
  rcases part_cases part with rfl | rfl | rfl | hname
  · exact hnames
  · exact hnames
  · rw [readPart_up, readPart_up]
    unfold goUp
    rw [← hnames]
    split
    · split
      · exact hkeep
      · rfl
    · exact hkeep
  · rw [readPart_name hname, readPart_name hname, hnames]

theorem foldl_readPart_names_congr (parts : List Text) {p q : Position} (hnames : p.names = q.names)
    (h : p.Anchored ↔ q.Anchored) :
    (parts.foldl readPart p).names = (parts.foldl readPart q).names := by
  induction parts generalizing p q with
  | nil => exact hnames
  | cons part rest ih =>
    refine ih (readPart_names_congr hnames h part) ?_
    unfold Anchored
    rw [readPart_rooted, readPart_rooted, readPart_drive, readPart_drive]
    exact h

end Position

/-- Folding starts where drive and root lead, and reads the parts. -/
theorem Flavour.position_eq (f : Flavour) (path : Text) :
    f.position path
      = (f.parts path).foldl Position.readPart ⟨(f.splitDrive path).1, f.hasRoot path, []⟩ := by
  unfold Flavour.position Flavour.components Flavour.hasRoot
  simp only [List.foldl_append, Position.foldl_step_classify]
  unfold Flavour.parts
  congr 1
  by_cases hd : (f.splitDrive path).1 = [] <;>
    by_cases hr : (f.isShare (f.splitDrive path).1
        || f.startsAtSeparator (f.splitDrive path).2) = true <;>
    simp_all [Position.step]

@[simp] theorem Flavour.position_drive (f : Flavour) (path : Text) :
    (f.position path).drive = (f.splitDrive path).1 := by
  rw [f.position_eq, Position.foldl_readPart_drive]

@[simp] theorem Flavour.position_rooted (f : Flavour) (path : Text) :
    (f.position path).rooted = f.hasRoot path := by
  rw [f.position_eq, Position.foldl_readPart_rooted]

/-! ## The stack

The names are kept last first, so what lies at the bottom of the stack was read first. -/

/-- A stack of names that lead down; where something lies above, `..` may lie below them all. -/
inductive Stack (anchored : Prop) : List Text → Prop
  | nil : Stack anchored []
  | up {names : List Text} :
      ¬ anchored → (∀ name ∈ names, name = Position.up) → Stack anchored (Position.up :: names)
  | name {name : Text} {names : List Text} :
      IsName name → Stack anchored names → Stack anchored (name :: names)

namespace Stack

variable {anchored : Prop} {name : Text} {names : List Text}

theorem of_forall_up (h : ¬ anchored) (hup : ∀ name ∈ names, name = Position.up) :
    Stack anchored names := by
  cases names with
  | nil => exact Stack.nil
  | cons first rest =>
    rw [hup first List.mem_cons_self]
    exact Stack.up h (fun name hname => hup name (List.mem_cons_of_mem _ hname))

theorem tail (h : Stack anchored names) : Stack anchored names.tail := by
  cases h with
  | nil => exact Stack.nil
  | up ha hup => exact of_forall_up ha hup
  | name _ hrest => exact hrest

theorem ne_nil_of_mem (h : Stack anchored names) (hmem : name ∈ names) : name ≠ [] := by
  induction h with
  | nil => exact absurd hmem List.not_mem_nil
  | up _ hup =>
    rcases List.mem_cons.mp hmem with rfl | hin
    · decide
    · rw [hup name hin]
      decide
  | name hname _ ih =>
    rcases List.mem_cons.mp hmem with rfl | hin
    · exact hname.ne_nil
    · exact ih hin

/-- Read from the first name on, a stack leads up some times, and then down. -/
theorem exists_split (h : Stack anchored names) :
    ∃ ups down, names.reverse = List.replicate ups Position.up ++ down
      ∧ (∀ name ∈ down, IsName name) ∧ (anchored → ups = 0) := by
  induction h with
  | nil => exact ⟨0, [], rfl, fun name hname => absurd hname List.not_mem_nil, fun _ => rfl⟩
  | @up names ha hup =>
    refine ⟨names.length + 1, [], ?_, fun name hname => absurd hname List.not_mem_nil,
      fun hanchored => absurd hanchored ha⟩
    rw [List.eq_replicate_of_mem hup, List.append_nil, List.reverse_cons, List.reverse_replicate,
      List.length_replicate, List.replicate_succ']
  | @name name names hname _ ih =>
    obtain ⟨ups, down, heq, hdown, hups⟩ := ih
    refine ⟨ups, down ++ [name], ?_, ?_, hups⟩
    · rw [List.reverse_cons, heq, List.append_assoc]
    · intro other hother
      rcases List.mem_append.mp hother with hin | hlast
      · exact hdown other hin
      · rw [List.mem_singleton.mp hlast]
        exact hname

/-- Names that lead down may be put on top of a stack. -/
theorem append {below : List Text} (h : ∀ name ∈ names, IsName name) (hbelow : Stack anchored below) :
    Stack anchored (names ++ below) := by
  induction names with
  | nil => exact hbelow
  | cons first rest ih =>
    exact Stack.name (h first List.mem_cons_self)
      (ih (fun name hname => h name (List.mem_cons_of_mem _ hname)))

/-- Behind a first name that leads down, all names lead down. -/
theorem isName_of_mem_behind {first : Text} {behind : List Text} (h : Stack anchored names)
    (heq : names.reverse = first :: behind) (hfirst : first ≠ Position.up) :
    ∀ name ∈ behind, IsName name := by
  obtain ⟨ups, down, hsplit, hdown, _⟩ := h.exists_split
  rw [heq] at hsplit
  cases ups with
  | zero =>
    rw [List.replicate_zero, List.nil_append] at hsplit
    rw [← hsplit] at hdown
    exact fun name hname => hdown name (List.mem_cons_of_mem _ hname)
  | succ n =>
    rw [List.replicate_succ, List.cons_append, List.cons.injEq] at hsplit
    exact absurd hsplit.1 hfirst

end Stack

namespace Position

/-- The names of a position make up a stack. -/
def Folded (p : Position) : Prop := Stack p.Anchored p.names

/-- Where nothing lies above, going up takes the last name away, if there is one. -/
theorem goUp_of_anchored {p : Position} (h : p.Folded) (ha : p.Anchored) :
    p.goUp = { p with names := p.names.tail } := by
  cases hnames : p.names with
  | nil => rw [goUp_of_nil hnames, keepUp_of_anchored ha, List.tail_nil, ← hnames]
  | cons first rest =>
    unfold Folded at h
    rw [hnames] at h
    cases h with
    | up hna _ => exact absurd ha hna
    | name hname _ => exact goUp_of_name hnames hname

theorem folded_goUp {p : Position} (h : p.Folded) : p.goUp.Folded := by
  by_cases ha : p.Anchored
  · rw [goUp_of_anchored h ha]
    exact Stack.tail h
  · cases hnames : p.names with
    | nil =>
      rw [goUp_of_nil hnames, keepUp_of_not_anchored ha, hnames]
      exact Stack.up ha (fun name hname => absurd hname List.not_mem_nil)
    | cons first rest =>
      unfold Folded at h
      rw [hnames] at h
      cases h with
      | up _ hup =>
        rw [goUp_of_up hnames, keepUp_of_not_anchored ha, hnames]
        apply Stack.up ha
        intro name hname
        rcases List.mem_cons.mp hname with rfl | hin
        · rfl
        · exact hup name hin
      | name hname hrest =>
        rw [goUp_of_name hnames hname]
        exact hrest

/-- **One step keeps the stack.** -/
theorem folded_readPart {p : Position} (h : p.Folded) (part : Text) : (p.readPart part).Folded := by
  rcases part_cases part with rfl | rfl | rfl | hname
  · exact h
  · exact h
  · exact folded_goUp h
  · rw [readPart_name hname]
    exact Stack.name hname h

/-- **A run keeps the stack.** -/
theorem folded_foldl_readPart (parts : List Text) {p : Position} (h : p.Folded) :
    (parts.foldl readPart p).Folded := by
  induction parts generalizing p with
  | nil => exact h
  | cons part rest ih => exact ih (folded_readPart h part)

/-! ## Origin -/

/-- A step puts nothing on the stack but the part that it reads, a step up too. -/
theorem mem_names_readPart {p : Position} {part name : Text} (h : name ∈ (p.readPart part).names) :
    name = part ∨ name ∈ p.names := by
  have hkeep : name ∈ p.keepUp.names → name = up ∨ name ∈ p.names := by
    intro hmem
    by_cases ha : p.Anchored
    · rw [keepUp_of_anchored ha] at hmem
      exact Or.inr hmem
    · rw [keepUp_of_not_anchored ha] at hmem
      exact List.mem_cons.mp hmem
  rcases part_cases part with rfl | rfl | rfl | hname
  · exact Or.inr h
  · exact Or.inr h
  · rw [readPart_up] at h
    unfold goUp at h
    split at h
    · next top rest hnames =>
      split at h
      · exact hkeep h
      · rw [hnames]
        exact Or.inr (List.mem_cons_of_mem _ h)
    · exact hkeep h
  · rw [readPart_name hname] at h
    exact List.mem_cons.mp h

theorem mem_names_foldl_readPart {parts : List Text} {p : Position} {name : Text}
    (h : name ∈ (parts.foldl readPart p).names) : name ∈ parts ∨ name ∈ p.names := by
  induction parts generalizing p with
  | nil => exact Or.inr h
  | cons part rest ih =>
    rcases ih h with hin | hstep
    · exact Or.inl (List.mem_cons_of_mem _ hin)
    · rcases mem_names_readPart hstep with rfl | hp
      · exact Or.inl List.mem_cons_self
      · exact Or.inr hp

end Position

namespace Flavour

/-- **The names of a path make up a stack**, whatever the flavour. -/
theorem folded_position (f : Flavour) (path : Text) : (f.position path).Folded := by
  rw [f.position_eq]
  exact Position.folded_foldl_readPart _ Stack.nil

/-- A name on the stack is a part of the path. -/
theorem mem_names_position {f : Flavour} {path name : Text} (h : name ∈ (f.position path).names) :
    name ∈ f.parts path := by
  rw [f.position_eq] at h
  exact (Position.mem_names_foldl_readPart h).resolve_right List.not_mem_nil

end Flavour

/-! ## Reading again -/

namespace Position

/-- Where no part leads up, those that lead down come on top of what is there. -/
theorem foldl_readPart_of_up_not_mem {parts : List Text} (h : up ∉ parts) (p : Position) :
    parts.foldl readPart p
      = { p with names := (parts.filter (fun part => IsName part)).reverse ++ p.names } := by
  induction parts generalizing p with
  | nil => rfl
  | cons part rest ih =>
    have hrest : up ∉ rest := fun hmem => h (List.mem_cons_of_mem _ hmem)
    rcases part_cases part with rfl | rfl | rfl | hname
    · exact ih hrest p
    · exact ih hrest p
    · exact absurd List.mem_cons_self h
    · rw [List.foldl_cons, readPart_name hname, ih hrest, List.filter_cons_of_pos (by simpa using hname),
        List.reverse_cons, List.append_assoc, List.singleton_append]

theorem foldl_readPart_names {names : List Text} (h : ∀ name ∈ names, IsName name) (p : Position) :
    names.foldl readPart p = { p with names := names.reverse ++ p.names } := by
  have hup : up ∉ names := fun hmem => (h up hmem).ne_up rfl
  have hall : names.filter (fun name => IsName name) = names :=
    List.filter_eq_self.mpr (fun name hname => decide_eq_true (h name hname))
  rw [foldl_readPart_of_up_not_mem hup, hall]

/-- **Reading the names of a stack gives the stack.** -/
theorem foldl_readPart_reverse {drive : Text} {rooted : Bool} {names : List Text}
    (h : Stack (Anchored ⟨drive, rooted, []⟩) names) :
    names.reverse.foldl readPart ⟨drive, rooted, []⟩ = ⟨drive, rooted, names⟩ := by
  induction names with
  | nil => rfl
  | cons name rest ih =>
    rw [List.reverse_cons, List.foldl_append, ih h.tail, List.foldl_cons, List.foldl_nil]
    cases h with
    | up ha hup =>
      -- below the step up there are only steps up, and they take none of it back
      have hkeep : goUp ⟨drive, rooted, rest⟩ = keepUp ⟨drive, rooted, rest⟩ := by
        cases rest with
        | nil => exact goUp_of_nil rfl
        | cons first more =>
          rw [hup first List.mem_cons_self]
          exact goUp_of_up rfl
      rw [readPart_up, hkeep]
      exact keepUp_of_not_anchored (p := ⟨drive, rooted, rest⟩) ha
    | name hname _ => exact readPart_name hname

/-- What is written behind the drive. -/
def trail (f : Flavour) (p : Position) : Text :=
  (if p.rooted then f.separator else []) ++ Text.joinWith f.separator p.names.reverse

theorem render_eq (f : Flavour) (p : Position) : p.render f = p.drive ++ p.trail f :=
  List.append_assoc _ _ _

end Position

/-- **The path to a position leads there** when it is read, if the drive is found again, the position
is rooted exactly if the path is, and what stands behind the drive is spelled with the separator that
is written. -/
theorem Flavour.position_render {f : Flavour} {sep : CodePoint} {p : Position}
    (hsep : f.separator = [sep]) (hfolded : p.Folded) (hnames : ∀ name ∈ p.names, sep ∉ name)
    (hsplit : f.splitDrive (p.render f) = (p.drive, p.trail f))
    (hroot : f.hasRoot (p.render f) = p.rooted)
    (hunify : f.unifySeparators (p.trail f) = p.trail f) : f.position (p.render f) = p := by
  have hmem : ∀ name ∈ p.names.reverse, sep ∉ name :=
    fun name hname => hnames name (List.mem_reverse.mp hname)
  -- the separator of the root adds an empty part in front of the names
  have hparts : ∀ q : Position,
      ((p.trail f).splitOn [sep]).foldl Position.readPart q
        = p.names.reverse.foldl Position.readPart q := by
    intro q
    unfold Position.trail
    rw [hsep]
    split
    · rw [List.singleton_append, Text.splitOn_cons_self, List.foldl_cons, Position.readPart_nil,
        Text.foldl_splitOn_joinWith Position.readPart_nil hmem]
    · rw [List.nil_append, Text.foldl_splitOn_joinWith Position.readPart_nil hmem]
  rw [f.position_eq, hroot]
  unfold Flavour.parts
  rw [hsplit, hunify, hsep, hparts]
  exact Position.foldl_readPart_reverse hfolded

end WorkspacePaths
