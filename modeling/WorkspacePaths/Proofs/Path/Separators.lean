import WorkspacePaths.Proofs.Path.Fold

/-!
# `Proofs.Path.Separators` — paths whose separators are single code points

A flavour may read many separators and writes one of them. As long as each is a single code point, they
are all alike to a path: it is read as if the one that is written stood in the place of each, so it is
cut at every separator, and no name that comes out of it holds any. What the names of a path look like is
therefore the same for all such flavours, with drives or without.

## Contents
- **Separators.** `SingleSeparators`, `Undivided`; `unifySeparators_eq_map` and
  `startsAtSeparator_cons_iff`, how such separators are read.
- **Pieces.** `pieces`, and `pieces_append_cons`, how a text is cut.
- **Names.** `NormalNames`: names as a normal form has them; `normalNames_position`, that every path has
  such names, and `NormalNames.stack`, that such names make up a stack.
-/

namespace WorkspacePaths

namespace Flavour

/-! ## Separators -/

/-- Every separator is one code point. -/
def SingleSeparators (f : Flavour) : Prop := ∀ sep ∈ f.separators, sep.length = 1

instance (f : Flavour) : Decidable f.SingleSeparators :=
  inferInstanceAs (Decidable (∀ sep ∈ f.separators, sep.length = 1))

example : posix.SingleSeparators ∧ windows.SingleSeparators := by decide

/-- Text in which no separator of any kind stands. -/
def Undivided (f : Flavour) (t : Text) : Prop := ∀ c ∈ t, [c] ∉ f.separators

variable {f : Flavour} {sep c : CodePoint} {t name path : Text}

theorem SingleSeparators.exists_separator (h : f.SingleSeparators) : ∃ sep, f.separator = [sep] :=
  List.length_eq_one_iff.mp (h f.separator List.mem_cons_self)

/-- Replacing one separator after another is putting one in the place of all of them. -/
theorem foldl_replaceAll_eq_map {alternatives : List Text}
    (h : ∀ alternative ∈ alternatives, alternative.length = 1) (sep : CodePoint) (t : Text) :
    alternatives.foldl (fun t alternative => t.replaceAll alternative [sep]) t
      = t.map (fun c => if [c] ∈ [sep] :: alternatives then sep else c) := by
  induction alternatives generalizing t with
  | nil =>
    refine ((List.map_congr_left (fun c _ => ?_)).trans (List.map_id t)).symm
    by_cases hc : c = sep
    · simp [hc]
    · simp [hc]
  | cons alternative rest ih =>
    obtain ⟨old, rfl⟩ := List.length_eq_one_iff.mp (h alternative List.mem_cons_self)
    have hrest : ∀ other ∈ rest, other.length = 1 :=
      fun other hother => h other (List.mem_cons_of_mem _ hother)
    rw [List.foldl_cons, Text.replaceAll_singleton, ih hrest, List.map_map]
    apply List.map_congr_left
    intro c _
    -- what was replaced is a separator now, so replacing goes on as if it had been one before
    by_cases hc : c = old
    · simp [hc]
    · simp [hc]

/-- **All separators are read as the one that is written.** -/
theorem unifySeparators_eq_map (h : f.SingleSeparators) (hsep : f.separator = [sep]) (t : Text) :
    f.unifySeparators t = t.map (fun c => if [c] ∈ f.separators then sep else c) := by
  have halternatives : ∀ alternative ∈ f.alternatives, alternative.length = 1 :=
    fun alternative halternative => h alternative (List.mem_cons_of_mem _ halternative)
  unfold unifySeparators separators
  rw [hsep]
  exact foldl_replaceAll_eq_map halternatives sep t

theorem startsAtSeparator_nil (h : f.SingleSeparators) : f.startsAtSeparator [] = false := by
  unfold startsAtSeparator
  rw [List.any_eq_false]
  intro alternative halternative
  obtain ⟨d, rfl⟩ := List.length_eq_one_iff.mp (h alternative halternative)
  simp

/-- A text begins with a separator if its first code point is one. -/
theorem startsAtSeparator_cons_iff (h : f.SingleSeparators) :
    f.startsAtSeparator (c :: t) = true ↔ [c] ∈ f.separators := by
  unfold startsAtSeparator
  rw [List.any_eq_true]
  constructor
  · rintro ⟨alternative, hmem, hstart⟩
    obtain ⟨d, rfl⟩ := List.length_eq_one_iff.mp (h alternative hmem)
    rw [Text.startsWith_singleton_cons, beq_iff_eq] at hstart
    rw [← hstart]
    exact hmem
  · intro hmem
    exact ⟨[c], hmem, by rw [Text.startsWith_singleton_cons, beq_self_eq_true]⟩

/-! ## Pieces -/

/-- The pieces of a text between its separators. -/
def pieces (f : Flavour) (t : Text) : List Text := (f.unifySeparators t).splitOn f.separator

theorem parts_eq (f : Flavour) (path : Text) : f.parts path = f.pieces (f.splitDrive path).2 := rfl

/-- A separator of any kind parts the pieces before it from those behind it. -/
theorem pieces_append_cons (h : f.SingleSeparators) (hc : [c] ∈ f.separators) (t u : Text) :
    f.pieces (t ++ c :: u) = f.pieces t ++ f.pieces u := by
  obtain ⟨sep, hsep⟩ := h.exists_separator
  unfold pieces
  rw [unifySeparators_eq_map h hsep, unifySeparators_eq_map h hsep, unifySeparators_eq_map h hsep,
    List.map_append, List.map_cons, if_pos hc, hsep, Text.splitOn_append_cons]

/-! ## Names -/

/-- A path is cut at every separator, so none is left in its parts. -/
theorem undivided_of_mem_parts (h : f.SingleSeparators) (hname : name ∈ f.parts path) :
    f.Undivided name := by
  obtain ⟨sep, hsep⟩ := h.exists_separator
  unfold parts at hname
  rw [hsep] at hname
  intro c hc hmem
  have hne : c ≠ sep := by
    rintro rfl
    exact Text.not_mem_of_mem_splitOn hname hc
  have hin := Text.mem_of_mem_splitOn hname hc
  rw [unifySeparators_eq_map h hsep, List.mem_map] at hin
  obtain ⟨d, _, heq⟩ := hin
  split at heq
  · exact hne heq.symm
  · next hd =>
    rw [heq] at hd
    exact hd hmem

/-- Names as a normal form has them: no separator stands in any, and they lead down, except that they may
begin with steps up where something lies above. -/
structure NormalNames (f : Flavour) (anchored : Prop) (names : List Text) : Prop where
  undivided : ∀ name ∈ names, f.Undivided name
  upsThenDown : ∃ ups down, names = List.replicate ups Position.up ++ down
    ∧ (∀ name ∈ down, IsName name) ∧ (anchored → ups = 0)

/-- **The names of a path are those of a normal form.** -/
theorem normalNames_position (h : f.SingleSeparators) (path : Text) :
    f.NormalNames (f.position path).Anchored (f.position path).names.reverse where
  undivided := fun _ hname => undivided_of_mem_parts h (mem_names_position (List.mem_reverse.mp hname))
  upsThenDown := (f.folded_position path).exists_split

namespace NormalNames

variable {anchored : Prop} {names : List Text}

/-- Names as a normal form has them make up a stack, the last one on top. -/
theorem stack (h : f.NormalNames anchored names) : Stack anchored names.reverse := by
  obtain ⟨ups, down, rfl, hdown, hups⟩ := h.upsThenDown
  have hbottom : Stack anchored (List.replicate ups Position.up).reverse := by
    rw [List.reverse_replicate]
    by_cases hanchored : anchored
    · rw [hups hanchored]
      exact Stack.nil
    · exact Stack.of_forall_up hanchored (fun name hname => List.eq_of_mem_replicate hname)
  rw [List.reverse_append]
  exact Stack.append (fun name hname => hdown name (List.mem_reverse.mp hname)) hbottom

theorem ne_nil_of_mem (h : f.NormalNames anchored names) (hname : name ∈ names) : name ≠ [] :=
  h.stack.ne_nil_of_mem (List.mem_reverse.mpr hname)

end NormalNames

end Flavour

end WorkspacePaths
