import WorkspacePaths.Host.WorkspaceRoot
import WorkspacePaths.Proofs.Logged
import WorkspacePaths.Proofs.Path.Walk
import WorkspacePaths.Proofs.Text.Utf8

/-!
# `Proofs.Host.Roots` — a workspace root stays what it is

A workspace root is spelled with one slash or two at the front and the names down to it behind them.
Nothing in such a spelling depends on the process any more: taken as a path again, in whatever
process, it names the same root. So a root may be handed on as text.

## Contents
- `IsRootSpelling`: what roots look like.
- `workspaceRoot_eq_some_iff`, `workspaceRoot_some_iff`: when a path names a root.
- `absolute_of_isRootSpelling`, `workspaceRoot_of_isRootSpelling`: roots are left alone.
- `isRootSpelling_workspaceRoot`: roots look like that; `workspaceRoot_of_startsWith`: absolute paths
  name one, which leads where the path leads; `mem_of_mem_root`: what it holds.
- `startsWith_workspaceRoot`: roots are absolute, that of the current directory included.
- `Host.Placed`, and `isRootSpelling_of_placed`: with a current directory as the system gives it, its
  root looks like one, too.
- `IsRootSpelling.canonical`: what comes back of a root that the system held.
-/

namespace WorkspacePaths

/-! ## Spellings -/

/-- One slash or two. -/
def IsLead (lead : Text) : Prop := lead = [slash] ∨ lead = [slash, slash]

/-- The spelling of a workspace root: one slash or two, and the names down to it. -/
def IsRootSpelling (root : Text) : Prop :=
  ∃ lead names, IsLead lead ∧ IsDirectory names ∧ root = lead ++ Text.joinWith [slash] names

variable {lead : Text} {names : List Text}

theorem IsLead.startsWith (h : IsLead lead) (t : Text) : (lead ++ t).startsWith [slash] = true := by
  rcases h with rfl | rfl <;> rfl

theorem IsLead.ne_nil (h : IsLead lead) : lead ≠ [] := by
  rcases h with rfl | rfl <;> simp

/-- The slashes at the front add empty parts, which whatever reads the parts passes over. -/
theorem IsLead.splitOn_append (h : IsLead lead) (t : Text) :
    ∃ n, Text.splitOn (lead ++ t) [slash] = List.replicate n [] ++ Text.splitOn t [slash] := by
  rcases h with rfl | rfl
  · exact ⟨1, Text.splitOn_cons_self t slash⟩
  · refine ⟨2, ?_⟩
    show Text.splitOn (slash :: slash :: t) [slash] = _
    rw [Text.splitOn_cons_self, Text.splitOn_cons_self]
    rfl

theorem leadingSlashes_append (h : IsLead lead) {t : Text} (ht : t.startsWith [slash] = false) :
    leadingSlashes (lead ++ t) = lead := by
  have hnone : t.takeWhile (fun c => c = slash) = [] := by
    cases t with
    | nil => rfl
    | cons c rest =>
      rw [Text.startsWith_singleton_cons, beq_eq_false_iff_ne] at ht
      exact List.takeWhile_cons_of_neg (by simpa using Ne.symm ht)
  unfold leadingSlashes
  rcases h with rfl | rfl
  · rw [List.singleton_append, List.takeWhile_cons_of_pos (by simp), hnone]
    rfl
  · rw [List.cons_append, List.singleton_append, List.takeWhile_cons_of_pos (by simp),
      List.takeWhile_cons_of_pos (by simp), hnone]
    rfl

theorem isLead_leadingSlashes {path : Text} (h : path.startsWith [slash] = true) :
    IsLead (leadingSlashes path) := by
  obtain ⟨rest, rfl⟩ := Text.startsWith_singleton_iff.mp h
  unfold leadingSlashes
  rw [List.takeWhile_cons_of_pos (by simp), List.length_cons, if_neg (by simp)]
  split
  · exact Or.inr rfl
  · exact Or.inl rfl

theorem IsDirectory.startsWith_joinWith (h : IsDirectory names) :
    (Text.joinWith [slash] names).startsWith [slash] = false :=
  Text.startsWith_joinWith (fun name hname => ⟨(h name hname).1.ne_nil, (h name hname).2⟩)

/-! ## What leaves a root alone -/

theorem ofText_spelling (hlead : IsLead lead) (hnames : IsDirectory names) :
    Spelling.ofText (lead ++ Text.joinWith [slash] names) = ⟨lead, names⟩ := by
  have hsep : ∀ name ∈ names, slash ∉ name := fun name hname => (hnames name hname).2
  have hkeep : ∀ name ∈ names, (decide (name ≠ []) && decide (name ≠ ("." : Text))) = true := by
    intro name hname
    simp [(hnames name hname).1.ne_nil, (hnames name hname).1.ne_current]
  obtain ⟨n, hsplit⟩ := hlead.splitOn_append (Text.joinWith [slash] names)
  -- of the parts, the empty ones at the front are dropped and the names are kept
  unfold Spelling.ofText
  rw [leadingSlashes_append hlead hnames.startsWith_joinWith,
    show (("/" : String) : Text) = [slash] from rfl, hsplit, List.filter_append,
    List.filter_replicate_of_neg (by simp), List.nil_append]
  by_cases hempty : names = []
  · rw [hempty]
    rfl
  · rw [Text.splitOn_joinWith hempty hsep, List.filter_eq_self.mpr hkeep]

/-- A walk that begins with slashes starts at the top. -/
theorem IsLead.walk_append (h : IsLead lead) (dir : List Text) (t : Text) :
    walk dir (lead ++ t) = (t.splitOn [slash]).foldl descend [] := by
  have hpass : ∀ n, (List.replicate n []).foldl descend [] = [] := by
    intro n
    induction n with
    | zero => rfl
    | succ k ih => rw [List.replicate_succ, List.foldl_cons, descend_nil, ih]
  obtain ⟨n, hsplit⟩ := h.splitOn_append t
  rw [walk_eq, h.startsWith, hsplit, if_pos rfl, List.foldl_append, hpass]

theorem walk_spelling (hlead : IsLead lead) (hnames : IsDirectory names) :
    walk [] (lead ++ Text.joinWith [slash] names) = names := by
  have hsep : ∀ name ∈ names, slash ∉ name := fun name hname => (hnames name hname).2
  rw [hlead.walk_append, Text.foldl_splitOn_joinWith descend_nil hsep,
    foldl_descend_names (fun name hname => (hnames name hname).1), List.nil_append]

variable {root path cwd : Text}

theorem IsRootSpelling.startsWith (h : IsRootSpelling root) : root.startsWith [slash] = true := by
  obtain ⟨lead, names, hlead, _, rfl⟩ := h
  exact hlead.startsWith _

/-- A root is the same seen from every directory. -/
theorem absolute_of_isRootSpelling (h : IsRootSpelling root) (cwd : Text) :
    absolute cwd root = root := by
  obtain ⟨lead, names, hlead, hnames, rfl⟩ := h
  unfold absolute
  simp only [posixJoin_of_startsWith (hlead.startsWith _), walk_spelling hlead hnames,
    leadingSlashes_append hlead hnames.startsWith_joinWith]
  rfl

theorem toText_ofText_of_isRootSpelling (h : IsRootSpelling root) :
    (Spelling.ofText root).toText = root := by
  obtain ⟨lead, names, hlead, hnames, rfl⟩ := h
  rw [ofText_spelling hlead hnames]
  unfold Spelling.toText
  rw [if_neg (by simp [hlead.ne_nil])]
  rfl

/-- A tilde is looked for in relative paths only. -/
theorem expandHome_of_lead (p : Host) {s : Spelling} (h : s.lead ≠ []) :
    p.expandHome s = .ok s := by
  unfold Host.expandHome
  cases s.parts with
  | nil => rfl
  | cons first rest => exact if_neg (by simp [h])

/-- A path names a root exactly when nothing goes wrong. -/
theorem workspaceRoot_eq_some_iff {p : Host} {given : Option Text} :
    p.workspaceRoot given = some root ↔ p.rootOf given = .ok root :=
  toOption_eq_some_iff

/-- A path that is expanded names the root that its spelling leads to. -/
theorem workspaceRoot_some_iff {p : Host} :
    p.workspaceRoot (some path) = some root ↔
      ∃ s, p.expandHome (Spelling.ofText path) = .ok s ∧ spelled (absolute p.cwd s.toText) = root := by
  rw [workspaceRoot_eq_some_iff]
  show (p.expandHome (Spelling.ofText path)).map _ = _ ↔ _
  cases p.expandHome (Spelling.ofText path) with
  | error fault => simp [Except.map]
  | ok s => simp [Except.map]

/-- **A root names itself**, in every process. -/
theorem workspaceRoot_of_isRootSpelling (h : IsRootSpelling root) (p : Host) :
    p.workspaceRoot (some root) = some root := by
  have htext := toText_ofText_of_isRootSpelling h
  have hexpand : p.expandHome (Spelling.ofText root) = .ok (Spelling.ofText root) := by
    obtain ⟨lead, names, hlead, hnames, rfl⟩ := h
    rw [ofText_spelling hlead hnames]
    exact expandHome_of_lead p hlead.ne_nil
  refine workspaceRoot_some_iff.mpr ⟨_, hexpand, ?_⟩
  rw [htext, absolute_of_isRootSpelling h]
  unfold spelled
  rw [htext]

/-! ## What roots look like -/

theorem isRootSpelling_absolute (h : (posixJoin cwd path).startsWith [slash] = true) :
    IsRootSpelling (absolute cwd path) :=
  ⟨_, _, isLead_leadingSlashes h,
    isDirectory_walk (fun _ hname => absurd hname List.not_mem_nil) _, rfl⟩

/-- The root that a path names is spelled as one, if the current directory begins with a slash. -/
theorem isRootSpelling_workspaceRoot {p : Host} (hcwd : p.cwd.startsWith [slash] = true)
    (h : p.workspaceRoot (some path) = some root) : IsRootSpelling root := by
  obtain ⟨s, _, rfl⟩ := workspaceRoot_some_iff.mp h
  have hspelling := isRootSpelling_absolute (posixJoin_startsWith hcwd s.toText)
  unfold spelled
  rw [toText_ofText_of_isRootSpelling hspelling]
  exact hspelling

/-- The slash that an absolute path begins with stays when the path is spelled. -/
theorem startsWith_spelled (h : path.startsWith [slash] = true) :
    (spelled path).startsWith [slash] = true := by
  have hlead : IsLead (Spelling.ofText path).lead := isLead_leadingSlashes h
  unfold spelled Spelling.toText
  rw [if_neg (by simp [hlead.ne_nil])]
  exact hlead.startsWith _

/-- A root is absolute, whether a path names it or none is given, if the current directory is. -/
theorem startsWith_workspaceRoot {p : Host} {given : Option Text}
    (hcwd : p.cwd.startsWith [slash] = true) (h : p.workspaceRoot given = some root) :
    root.startsWith [slash] = true := by
  cases given with
  | none => exact Option.some.inj h ▸ startsWith_spelled hcwd
  | some path => exact (isRootSpelling_workspaceRoot hcwd h).startsWith

/-- The process stands in a directory whose path begins with a slash and has no step up, as the paths
do that the system gives for it. -/
structure Host.Placed (p : Host) : Prop where
  startsWith : p.cwd.startsWith "/" = true
  no_up : (".." : Text) ∉ p.cwd.splitOn "/"

/-- Spelling drops all that a root may not hold, but for steps up. -/
theorem isRootSpelling_spelled (hstart : path.startsWith [slash] = true)
    (hup : Position.up ∉ path.splitOn [slash]) : IsRootSpelling (spelled path) := by
  have hlead : IsLead (Spelling.ofText path).lead := isLead_leadingSlashes hstart
  have hparts : IsDirectory (Spelling.ofText path).parts := by
    intro part hpart
    obtain ⟨hin, hkept⟩ := List.mem_filter.mp hpart
    simp only [ne_eq, Bool.and_eq_true, decide_eq_true_eq] at hkept
    exact ⟨⟨hkept.1, hkept.2, fun heq => hup (heq ▸ hin)⟩, Text.not_mem_of_mem_splitOn hin⟩
  refine ⟨_, _, hlead, hparts, ?_⟩
  unfold spelled Spelling.toText
  rw [if_neg (by simp [hlead.ne_nil])]
  rfl

/-- Every root is spelled as one, in a process that stands somewhere. -/
theorem isRootSpelling_of_placed {p : Host} {given : Option Text} (hplaced : p.Placed)
    (h : p.workspaceRoot given = some root) : IsRootSpelling root := by
  cases given with
  | none => exact Option.some.inj h ▸ isRootSpelling_spelled hplaced.startsWith hplaced.no_up
  | some path => exact isRootSpelling_workspaceRoot hplaced.startsWith h

/-- A walk passes over the parts that a spelling drops. -/
theorem foldl_descend_filter (parts dir : List Text) :
    (parts.filter (fun part => part ≠ [] && part ≠ ("." : Text))).foldl descend dir
      = parts.foldl descend dir := by
  induction parts generalizing dir with
  | nil => rfl
  | cons part rest ih =>
    rw [List.filter_cons, List.foldl_cons]
    split
    · rw [List.foldl_cons, ih]
    · next hdropped =>
      have hpart : part = [] ∨ part = ("." : Text) := by
        rw [Bool.not_eq_true, Bool.and_eq_false_iff] at hdropped
        simpa using hdropped
      have hstay : descend dir part = dir := by
        rcases hpart with rfl | rfl
        · exact descend_nil dir
        · exact descend_current dir
      rw [ih, hstay]

/-- The spelling of an absolute path leads where the path leads. -/
theorem walk_toText_ofText (h : path.startsWith [slash] = true) :
    walk [] (Spelling.ofText path).toText = walk [] path := by
  have hlead : IsLead (Spelling.ofText path).lead := isLead_leadingSlashes h
  have hsep : ∀ part ∈ (Spelling.ofText path).parts, slash ∉ part :=
    fun part hpart => Text.not_mem_of_mem_splitOn (List.mem_filter.mp hpart).1
  unfold Spelling.toText
  rw [if_neg (by simp [hlead.ne_nil]), show (("/" : String) : Text) = [slash] from rfl,
    hlead.walk_append, Text.foldl_splitOn_joinWith descend_nil hsep, walk_eq, ite_self]
  exact foldl_descend_filter _ []

/-- **An absolute path names a root**, the same in every process: no tilde is expanded in it, and it does
not depend on the current directory. The root is where the path leads. -/
theorem workspaceRoot_of_startsWith (h : path.startsWith [slash] = true) :
    ∃ root, IsRootSpelling root ∧ walk [] root = walk [] path
      ∧ ∀ p : Host, p.workspaceRoot (some path) = some root := by
  have hlead : IsLead (Spelling.ofText path).lead := isLead_leadingSlashes h
  have hstart : (Spelling.ofText path).toText.startsWith [slash] = true := startsWith_spelled h
  have hnames : IsDirectory (walk [] path) :=
    isDirectory_walk (fun _ hname => absurd hname List.not_mem_nil) path
  have hlead' : IsLead (leadingSlashes (Spelling.ofText path).toText) := isLead_leadingSlashes hstart
  let root := leadingSlashes (Spelling.ofText path).toText ++ Text.joinWith [slash] (walk [] path)
  have hroot : IsRootSpelling root := ⟨_, _, hlead', hnames, rfl⟩
  refine ⟨root, hroot, walk_spelling hlead' hnames, ?_⟩
  intro p
  have habsolute : absolute p.cwd (Spelling.ofText path).toText = root := by
    unfold absolute
    simp only [posixJoin_of_startsWith hstart, walk_toText_ofText h]
    rfl
  refine workspaceRoot_some_iff.mpr ⟨_, expandHome_of_lead p hlead.ne_nil, ?_⟩
  rw [habsolute]
  unfold spelled
  rw [toText_ofText_of_isRootSpelling hroot]

theorem exists_workspaceRoot (p : Host) (h : path.startsWith [slash] = true) :
    ∃ root, p.workspaceRoot (some path) = some root ∧ IsRootSpelling root := by
  obtain ⟨root, hroot, _, hnamed⟩ := workspaceRoot_of_startsWith h
  exact ⟨root, hnamed p, hroot⟩

/-- Nothing stands in a root but slashes and what stands in the names down to it. -/
theorem mem_of_mem_root {c : CodePoint} (h : IsRootSpelling root) (hc : c ∈ root) :
    c = slash ∨ ∃ name ∈ walk [] root, c ∈ name := by
  obtain ⟨lead, names, hlead, hnames, rfl⟩ := h
  rw [walk_spelling hlead hnames]
  rcases List.mem_append.mp hc with hin | hin
  · rcases hlead with rfl | rfl
    · exact Or.inl (List.mem_singleton.mp hin)
    · exact Or.inl (by simpa using hin)
  · rcases Text.mem_or_exists_of_mem_joinWith hin with hsep | hname
    · exact Or.inl (List.mem_singleton.mp hsep)
    · exact Or.inr hname

/-! ## Roots held by the system -/

open Utf8

theorem canonical_joinWith (names : List Text) :
    canonical (Text.joinWith [slash] names) = Text.joinWith [slash] (names.map canonical) := by
  induction names with
  | nil => rfl
  | cons first rest ih =>
    by_cases hrest : rest = []
    · rw [hrest, List.map_singleton, Text.joinWith_singleton, Text.joinWith_singleton]
    · rw [List.map_cons, Text.joinWith_cons hrest, Text.joinWith_cons (by simpa using hrest),
        List.append_assoc, List.singleton_append, canonical_append_scalar, ih, List.append_assoc,
        List.singleton_append]

theorem IsName.canonical {name : Text} (h : IsName name) : IsName (canonical name) where
  ne_nil heq := h.ne_nil (canonical_eq_of_ascii (by decide) heq)
  ne_current heq := h.ne_current (canonical_eq_of_ascii (by decide) heq)
  ne_up heq := h.ne_up (canonical_eq_of_ascii (by decide) heq)

theorem canonical_startsWith (h : root.startsWith [slash] = true) :
    (canonical root).startsWith [slash] = true := by
  obtain ⟨rest, rfl⟩ := Text.startsWith_singleton_iff.mp h
  exact Text.startsWith_singleton_iff.mpr ⟨canonical rest, canonical_scalar _ _⟩

/-- A root that comes back from the system is spelled as a root, if perhaps as another one. -/
theorem IsRootSpelling.canonical (h : IsRootSpelling root) : IsRootSpelling (canonical root) := by
  obtain ⟨lead, names, hlead, hnames, rfl⟩ := h
  refine ⟨lead, names.map Utf8.canonical, hlead, ?_, ?_⟩
  · intro name hname
    obtain ⟨original, horiginal, rfl⟩ := List.mem_map.mp hname
    exact ⟨(hnames original horiginal).1.canonical,
      fun hslash => (hnames original horiginal).2 (mem_of_mem_canonical (by decide) hslash)⟩
  · rw [← canonical_joinWith]
    rcases hlead with rfl | rfl
    · exact canonical_scalar _ _
    · rw [List.cons_append, List.singleton_append, canonical_scalar, canonical_scalar]
      rfl

end WorkspacePaths
