import WorkspacePaths.Proofs.Entry.Anchor
import WorkspacePaths.Proofs.Entry.Table

/-!
# `Proofs.Entry.Outcome` — what resolving an entry comes to

Resolution never fails in a fixed table. It ends in one of three ways: early, when the workspace root
has no UTF-8 form; with the expanded entry, when the home directory that it needs is missing; and else
with a path in normal form, which leads down from the top if the directories it is anchored to do.
The first two are reported as errors, and unset variables are reported in all three.

## Contents
- `mem_unsetReports`: the reports on variables.
- `anchor_eq_none_iff`: when there is nothing to be anchored to.
- `resolve_posix_outcome`: the three ways.
-/

namespace WorkspacePaths

/-- Every report on variables is a warning, and names an unset variable of the entry. -/
theorem Bindings.mem_unsetReports {bs : Bindings} {t : Text} {record : LogRecord}
    (h : record ∈ bs.unsetReports t) :
    ∃ name, .token name ∈ variablePieces t ∧ bs.get? name = none
      ∧ record = ⟨.warning, unsetMessage name⟩ := by
  obtain ⟨piece, hpiece, hrecord⟩ := List.mem_flatMap.mp h
  cases piece with
  | plain c => exact absurd hrecord List.not_mem_nil
  | token name =>
    simp only [Bindings.unsetReport] at hrecord
    by_cases hunset : bs.get? name = none
    · rw [if_pos hunset, List.mem_singleton] at hrecord
      exact ⟨name, hpiece, hunset, hrecord⟩
    · rw [if_neg hunset] at hrecord
      exact absurd hrecord List.not_mem_nil

/-- Only a missing home directory leaves an entry with nothing to be anchored to. -/
theorem anchor_eq_none_iff {env : Environment} {root t : Text} :
    anchor env .posix root t = none ↔ t.startsWith [tilde] = true ∧ env.home = none := by
  unfold anchor
  by_cases htilde : t.startsWith [tilde] = true
  · obtain ⟨rest, rfl⟩ := Text.startsWith_singleton_iff.mp htilde
    rw [Anchor.ofText_tilde, Option.map_eq_none_iff]
    constructor
    · intro h
      exact ⟨htilde, h⟩
    · exact And.right
  · refine iff_of_false ?_ (fun h => htilde h.1)
    intro h
    rw [Bool.not_eq_true] at htilde
    by_cases hslash : t.startsWith [slash] = true
    · obtain ⟨rest, rfl⟩ := Text.startsWith_singleton_iff.mp hslash
      rw [Anchor.ofText_slash] at h
      exact Option.some_ne_none _ h
    · rw [Bool.not_eq_true] at hslash
      obtain ⟨rest, hof, _⟩ := Anchor.ofText_relative htilde hslash
      rw [hof] at h
      exact Option.some_ne_none _ h

/-- **Resolving an entry ends in one of three ways.** A root without a UTF-8 form leaves the entry
with its variables replaced and its dollar signs removed, and is reported as an error. An entry behind
a tilde without a home directory stays as it is expanded, which is reported as an error as well. Any
other entry becomes a path, with no error, and the path is in normal form and leads down from the top
if the root does, and the home directory where it counts. All other records are warnings about unset
variables. -/
theorem resolve_posix_outcome (bs : Bindings) (home : Option Text) (root : Root) (entry : Text) :
    let env := Environment.ofBindings bs home
    let warnings := bs.unsetReports entry
    (root.text.hasSurrogate = true →
      ∃ replaced, (replaceVariables env entry).outcome = .ok replaced
        ∧ resolve env .posix root entry
            = ⟨.ok (stripDollars replaced), warnings ++ [⟨.error, rootMessage root⟩]⟩)
    ∧ (root.text.hasSurrogate = false →
      ∃ expanded, (expand env root.text entry).outcome = .ok expanded
        ∧ (expanded.startsWith "~" = true ∧ home = none →
            resolve env .posix root entry
              = ⟨.ok expanded, warnings ++ [⟨.error, unanchoredMessage expanded⟩]⟩)
        ∧ (¬ (expanded.startsWith "~" = true ∧ home = none) →
            ∃ path, resolve env .posix root entry = ⟨.ok path, warnings⟩
              ∧ (root.text.startsWith "/" = true →
                (expanded.startsWith "~" = true →
                  ∀ directory, home = some directory → directory.startsWith "/" = true) →
                IsAbsoluteNormal path)))
    ∧ ∀ record ∈ warnings,
        ∃ name, bs.get? name = none ∧ record = ⟨.warning, unsetMessage name⟩ := by
  intro env warnings
  refine ⟨?_, ?_, ?_⟩
  · intro hroot
    refine ⟨_, congrArg Logged.outcome (bs.replaceVariables_ofBindings home entry), ?_⟩
    exact Bindings.resolve_of_surrogate hroot entry
  · intro hroot
    refine ⟨bs.expand root.text entry,
      congrArg Logged.outcome (bs.expand_ofBindings home root.text entry), ?_, ?_⟩
    · intro hnone
      exact Bindings.resolve_of_no_anchor hroot (anchor_eq_none_iff.mpr hnone)
    · intro hsome
      have hanchor : anchor env .posix root.text (bs.expand root.text entry) ≠ none :=
        fun h => hsome (anchor_eq_none_iff.mp h)
      obtain ⟨path, hpath⟩ := Option.ne_none_iff_exists'.mp hanchor
      refine ⟨normalise .posix path, Bindings.resolve_of_anchor hroot hpath, ?_⟩
      intro hrooted hhome
      exact isAbsoluteNormal_normalise (anchor_posix_startsWith hrooted hhome hpath)
  · intro record hrecord
    obtain ⟨name, _, hunset, heq⟩ := Bindings.mem_unsetReports hrecord
    exact ⟨name, hunset, heq⟩

end WorkspacePaths
