import WorkspacePaths.Config.Basic
import WorkspacePaths.Proofs.Entry.Repeats

/-!
# `Proofs.Config.Processing` — the four lists of a configuration

Processing a configuration resolves its four lists of paths one after another. None of them knows of
the others: a path in one is no repeat in another. The schema and the patterns are not touched.

## Contents
- `process_of_ok`: the four lists put together.
- `resolveAll_keeps_first_places`: what resolving a list comes to in a fixed table, and that each list
  of a configuration comes to that.
-/

namespace WorkspacePaths

/-- Lists that resolve are put together, and so are their logs. -/
theorem process_of_ok {env : Environment} {root : Root} {paths : List Text → List Text}
    {log : List Text → Log}
    (h : ∀ entries, resolveAll env .posix root entries = ⟨.ok (paths entries), log entries⟩)
    (config : Config) :
    config.process env root
      = ⟨.ok { config with
            workspaceRoots := paths config.workspaceRoots
            library := paths config.library
            ignoreDir := paths config.ignoreDir
            resourcePaths := paths config.resourcePaths },
          log config.workspaceRoots ++ log config.library ++ log config.ignoreDir
            ++ log config.resourcePaths⟩ := by
  unfold Config.process
  simp only [h, Logged.ok_bind, Logged.outcome_pure, Logged.log_pure, List.append_nil,
    List.append_assoc]

/-- **Resolving a list keeps each path at its first place.** In a fixed table every entry stands for a
path. The list of them holds these paths and no others, none of them twice, in the order of the first
entries that stand for them. Of two lists in a row, the first is resolved as it stands, and the second
adds what the first does not have. Every entry logs what it would log alone, in order, whether its path
is kept or not. A configuration is processed by doing this with each of its four lists alone; its
schema and its patterns stay as they are. -/
theorem resolveAll_keeps_first_places (bs : Bindings) (home : Option Text) (root : Root) :
    let env := Environment.ofBindings bs home
    (∀ f entries, ∃ paths,
      resolveAll env f root entries
          = ⟨.ok paths, entries.flatMap (fun entry => (resolve env f root entry).log)⟩
        ∧ paths.Nodup
        ∧ (∀ path, path ∈ paths ↔ ∃ entry ∈ entries, (resolve env f root entry).outcome = .ok path)
        ∧ paths.Pairwise (fun path later =>
            firstPlace env f root entries path < firstPlace env f root entries later))
    ∧ (∀ f a b, ∃ ofA ofB,
      (resolveAll env f root a).outcome = .ok ofA ∧ (resolveAll env f root b).outcome = .ok ofB
        ∧ (resolveAll env f root (a ++ b)).outcome
            = .ok (ofA ++ ofB.filter (fun path => path ∉ ofA)))
    ∧ ∀ config : Config, ∃ workspaceRoots library ignoreDir resourcePaths,
      (resolveAll env .posix root config.workspaceRoots).outcome = .ok workspaceRoots
        ∧ (resolveAll env .posix root config.library).outcome = .ok library
        ∧ (resolveAll env .posix root config.ignoreDir).outcome = .ok ignoreDir
        ∧ (resolveAll env .posix root config.resourcePaths).outcome = .ok resourcePaths
        ∧ config.process env root
            = ⟨.ok { config with workspaceRoots, library, ignoreDir, resourcePaths },
                (config.workspaceRoots ++ config.library ++ config.ignoreDir
                    ++ config.resourcePaths).flatMap
                  (fun entry => (resolve env .posix root entry).log)⟩ := by
  intro env
  have hall := fun f => bs.resolveAll_ofBindings home f root
  refine ⟨?_, ?_, ?_⟩
  · intro f entries
    -- an entry stands for one path, so places among entries are places among their paths
    refine ⟨_, hall f entries, nodup_dropRepeats _ _, ?_, ?_⟩
    · intro path
      rw [mem_dropRepeats, List.mem_map]
      simp [env, Bindings.outcome_resolve]
    · refine (pairwise_dropRepeats [] (entries.map (bs.path home f root))).imp ?_
      intro path later hlt
      rw [Bindings.firstPlace_eq_idxOf, Bindings.firstPlace_eq_idxOf]
      exact hlt
  · intro f a b
    refine ⟨_, _, congrArg Logged.outcome (hall f a), congrArg Logged.outcome (hall f b), ?_⟩
    rw [hall f (a ++ b), List.map_append, dropRepeats_nil_append]
  · intro config
    refine ⟨_, _, _, _, congrArg Logged.outcome (hall _ _), congrArg Logged.outcome (hall _ _),
      congrArg Logged.outcome (hall _ _), congrArg Logged.outcome (hall _ _), ?_⟩
    rw [process_of_ok (hall .posix) config]
    simp only [env, List.flatMap_append]

/-- Behind a path that came up before, a further one keeps its place. -/
example : (resolveAll (.ofBindings [("A", "lib")] none) .posix (.ofText "/ws")
    ["lib", "./$A", "src"]).outcome.toOption = some [("/ws/lib" : Text), "/ws/src"] := by
  decide +kernel

end WorkspacePaths
