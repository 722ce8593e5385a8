import Mathlib.Data.List.Basic
import WorkspacePaths.Proofs.Entry.Table

/-!
# `Proofs.Entry.Repeats` — several entries, each path once

Dropping repeats goes through a list once and remembers what it kept. What it has to remember is only
which members there were, not in what order, so remembering more is the same as taking more away
afterwards. From this follow the laws: nothing is lost, nothing comes twice, members keep the order of
their first places, and a list in two parts may be gone through part by part.

## Contents
- **Repeats.** `mem_dropRepeats`, `nodup_dropRepeats`, `pairwise_dropRepeats`, `dropRepeats_append`;
  `dropRepeats_of_nodup` for lists that have none.
- **Entries.** `Bindings.path`, the path that an entry stands for in a fixed table;
  `resolveAll_ofBindings` for several; `firstPlace`, where a path first comes up.
-/

namespace WorkspacePaths

variable {seen other a b l : List Text} {s t : Text}

/-! ## Repeats -/

theorem dropRepeats_of_mem (h : t ∈ seen) (l : List Text) :
    dropRepeats seen (t :: l) = dropRepeats seen l := by
  rw [dropRepeats, if_pos h]

theorem dropRepeats_of_not_mem (h : t ∉ seen) (l : List Text) :
    dropRepeats seen (t :: l) = t :: dropRepeats (t :: seen) l := by
  rw [dropRepeats, if_neg h]

/-- Only the members remembered count. -/
theorem dropRepeats_congr (h : ∀ s, s ∈ seen ↔ s ∈ other) (l : List Text) :
    dropRepeats seen l = dropRepeats other l := by
  induction l generalizing seen other with
  | nil => rfl
  | cons t rest ih =>
    by_cases ht : t ∈ seen
    · rw [dropRepeats_of_mem ht, dropRepeats_of_mem ((h t).mp ht), ih h]
    · have hcons : ∀ s, s ∈ t :: seen ↔ s ∈ t :: other := by
        intro s
        rw [List.mem_cons, List.mem_cons, h s]
      rw [dropRepeats_of_not_mem ht, dropRepeats_of_not_mem (fun hother => ht ((h t).mpr hother)),
        ih hcons]

/-- What is left are the members that were not remembered at the start. -/
theorem mem_dropRepeats : s ∈ dropRepeats seen l ↔ s ∈ l ∧ s ∉ seen := by
  induction l generalizing seen with
  | nil => simp [dropRepeats]
  | cons t rest ih =>
    by_cases ht : t ∈ seen
    · rw [dropRepeats_of_mem ht, ih, List.mem_cons]
      constructor
      · rintro ⟨hs, hnot⟩
        exact ⟨Or.inr hs, hnot⟩
      · rintro ⟨rfl | hs, hnot⟩
        · exact absurd ht hnot
        · exact ⟨hs, hnot⟩
    · rw [dropRepeats_of_not_mem ht, List.mem_cons, ih, List.mem_cons, List.mem_cons, not_or]
      by_cases hst : s = t
      · subst hst
        exact iff_of_true (Or.inl rfl) ⟨Or.inl rfl, ht⟩
      · simp [hst]

theorem nodup_dropRepeats (seen l : List Text) : (dropRepeats seen l).Nodup := by
  induction l generalizing seen with
  | nil => exact List.nodup_nil
  | cons t rest ih =>
    by_cases ht : t ∈ seen
    · rw [dropRepeats_of_mem ht]
      exact ih seen
    · rw [dropRepeats_of_not_mem ht, List.nodup_cons]
      refine ⟨?_, ih (t :: seen)⟩
      intro hagain
      exact (mem_dropRepeats.mp hagain).2 List.mem_cons_self

/-- A list without repeats, of which nothing is remembered, is left as it is. -/
theorem dropRepeats_of_nodup (h : l.Nodup) (hseen : ∀ t ∈ l, t ∉ seen) : dropRepeats seen l = l := by
  induction l generalizing seen with
  | nil => rfl
  | cons t rest ih =>
    obtain ⟨hnot, hrest⟩ := List.nodup_cons.mp h
    have hnext : ∀ s ∈ rest, s ∉ t :: seen := by
      intro s hs hin
      rcases List.mem_cons.mp hin with rfl | hold
      · exact hnot hs
      · exact hseen s (List.mem_cons_of_mem t hs) hold
    rw [dropRepeats_of_not_mem (hseen t List.mem_cons_self), ih hrest hnext]

/-- What is left is in the order of first places. -/
theorem pairwise_dropRepeats (seen l : List Text) :
    (dropRepeats seen l).Pairwise (fun s t => l.idxOf s < l.idxOf t) := by
  induction l generalizing seen with
  | nil => exact List.Pairwise.nil
  | cons t rest ih =>
    -- behind the first member, places are counted from one further on
    have hbehind : ∀ among, t ∈ among →
        (dropRepeats among rest).Pairwise (fun s u => (t :: rest).idxOf s < (t :: rest).idxOf u) := by
      intro among ht
      refine (ih among).imp_of_mem ?_
      intro s u hs hu hlt
      have hst : t ≠ s := fun heq => (mem_dropRepeats.mp hs).2 (heq ▸ ht)
      have hut : t ≠ u := fun heq => (mem_dropRepeats.mp hu).2 (heq ▸ ht)
      rw [List.idxOf_cons_ne _ hst, List.idxOf_cons_ne _ hut]
      omega
    by_cases ht : t ∈ seen
    · rw [dropRepeats_of_mem ht]
      exact hbehind seen ht
    · rw [dropRepeats_of_not_mem ht, List.pairwise_cons]
      refine ⟨?_, hbehind (t :: seen) List.mem_cons_self⟩
      intro u hu
      have hut : t ≠ u := fun heq => (mem_dropRepeats.mp hu).2 (heq ▸ List.mem_cons_self)
      rw [List.idxOf_cons_self, List.idxOf_cons_ne _ hut]
      omega

/-- Remembering more is taking more away. -/
theorem dropRepeats_append_seen (other seen l : List Text) :
    dropRepeats (other ++ seen) l = (dropRepeats seen l).filter (fun s => s ∉ other) := by
  induction l generalizing seen with
  | nil => rfl
  | cons t rest ih =>
    by_cases ht : t ∈ seen
    · rw [dropRepeats_of_mem ht, dropRepeats_of_mem (List.mem_append_right other ht), ih]
    · rw [dropRepeats_of_not_mem ht, List.filter_cons, ← ih]
      by_cases hother : t ∈ other
      · rw [dropRepeats_of_mem (List.mem_append_left seen hother), if_neg (by simpa using hother)]
        apply dropRepeats_congr
        intro s
        simp only [List.mem_append, List.mem_cons]
        constructor
        · exact Or.imp_right Or.inr
        · rintro (hs | rfl | hs)
          · exact Or.inl hs
          · exact Or.inl hother
          · exact Or.inr hs
      · rw [dropRepeats_of_not_mem (by simp [ht, hother]), if_pos (by simpa using hother)]
        refine congrArg (t :: ·) (dropRepeats_congr ?_ rest)
        intro s
        simp only [List.mem_append, List.mem_cons]
        exact or_left_comm

/-- The second part of a list is gone through with what the first one left remembered. -/
theorem dropRepeats_append (seen a b : List Text) :
    dropRepeats seen (a ++ b)
      = dropRepeats seen a ++ dropRepeats (dropRepeats seen a ++ seen) b := by
  induction a generalizing seen with
  | nil => rfl
  | cons t rest ih =>
    rw [List.cons_append]
    by_cases ht : t ∈ seen
    · rw [dropRepeats_of_mem ht, dropRepeats_of_mem ht, ih]
    · rw [dropRepeats_of_not_mem ht, dropRepeats_of_not_mem ht, ih, List.cons_append]
      refine congrArg (fun after => t :: (dropRepeats (t :: seen) rest ++ after))
        (dropRepeats_congr ?_ b)
      intro s
      simp only [List.mem_append, List.mem_cons, or_assoc]
      exact or_left_comm

/-- **Two lists in a row**: the first without its repeats, and of the second what the first does not
have. -/
theorem dropRepeats_nil_append (a b : List Text) :
    dropRepeats [] (a ++ b)
      = dropRepeats [] a ++ (dropRepeats [] b).filter (fun s => s ∉ dropRepeats [] a) := by
  rw [dropRepeats_append, dropRepeats_append_seen]

/-! ## Entries -/

/-- The place of the first entry that stands for a path. -/
def firstPlace (env : Environment) (f : Flavour) (root : Root) (entries : List Text) (path : Text) :
    Nat :=
  entries.findIdx (fun entry => (resolve env f root entry).outcome.toOption = some path)

namespace Bindings

variable (bs : Bindings) (home : Option Text) (f : Flavour) (root : Root)

/-- The path that an entry stands for: expanded, and in normal form if it can be anchored. -/
def path (entry : Text) : Text :=
  if root.text.hasSurrogate then bs.expandVariables entry
  else
    match anchor (Environment.ofBindings bs home) f root.text (bs.expand root.text entry) with
    | some anchored => normalise f anchored
    | none => bs.expand root.text entry

/-- **Resolving an entry in a fixed table** yields a path. -/
theorem outcome_resolve (entry : Text) :
    (resolve (Environment.ofBindings bs home) f root entry).outcome
      = .ok (bs.path home f root entry) := by
  unfold path
  by_cases hroot : root.text.hasSurrogate = true
  · rw [resolve_of_surrogate hroot, if_pos hroot]
  · rw [if_neg hroot]
    rw [Bool.not_eq_true] at hroot
    cases hanchor : anchor (Environment.ofBindings bs home) f root.text
        (bs.expand root.text entry) with
    | some anchored => rw [resolve_of_anchor hroot hanchor]
    | none => rw [resolve_of_no_anchor hroot hanchor]

/-- **Resolving several entries in a fixed table** yields their paths without repeats, and logs what
each of them logs, in order, whether or not its path was there before. -/
theorem resolveAll_ofBindings (entries : List Text) :
    resolveAll (Environment.ofBindings bs home) f root entries
      = ⟨.ok (dropRepeats [] (entries.map (bs.path home f root))),
          entries.flatMap (fun entry =>
            (resolve (Environment.ofBindings bs home) f root entry).log)⟩ := by
  have heach : ∀ entry, resolve (Environment.ofBindings bs home) f root entry
      = ⟨.ok (bs.path home f root entry),
          (resolve (Environment.ofBindings bs home) f root entry).log⟩ := by
    intro entry
    rw [← outcome_resolve]
  unfold resolveAll
  rw [Logged.forEach_of_ok heach, Logged.ok_bind]
  simp

/-- The first place of a path is its first place among the paths of all entries. -/
theorem firstPlace_eq_idxOf (entries : List Text) (t : Text) :
    firstPlace (Environment.ofBindings bs home) f root entries t
      = (entries.map (bs.path home f root)).idxOf t := by
  unfold firstPlace List.idxOf
  rw [List.findIdx_map]
  congr 1
  funext entry
  rw [outcome_resolve, Function.comp_apply, Bool.eq_iff_iff, decide_eq_true_iff, beq_iff_eq]
  exact Option.some_inj

end Bindings

end WorkspacePaths
