import WorkspacePaths.Command.Context
import WorkspacePaths.Proofs.Text.Utf8

/-!
# `Proofs.Host.Variables` — the variable that names the workspace

While a command runs, the variable names the root of its workspace. Of all that resolution reads of
the process this changes a single value: what the variable itself holds. It holds the root as the
system gives it back.

## Contents
- `Host.naming`: the host in which the variable names a root; `setVariable_workspace`, and
  `setVariable_of_held`, `held_of_setVariable` for the roots that the system can hold.
- `lookup_naming`, `home_naming`: what is read of it.
- `lookup_naming_of_holds`: a variable that named the root before is as it was.
-/

namespace WorkspacePaths.Host

open Command Utf8

/-- The host in which the variable names the root. -/
def naming (p : Host) (root : Text) : Host :=
  { p with bindings := p.bindings.insert workspaceVariable (canonical root) }

variable {p p' : Host} {root name : Text}

theorem canonical_workspaceVariable : canonical workspaceVariable = workspaceVariable :=
  canonical_of_not_hasSurrogate (by decide)

/-- Setting the variable changes nothing but the variable. -/
theorem setVariable_workspace (h : p.setVariable workspaceVariable root = .ok p') :
    p' = p.naming root := by
  unfold setVariable at h
  split at h
  · exact absurd h (by simp)
  · rw [canonical_workspaceVariable] at h
    exact (Except.ok.inj h).symm

/-- The system finds no fault with the name of the variable. -/
theorem ofTexts?_workspaceVariable (root : Text) :
    SystemFault.ofTexts? [workspaceVariable, root] = SystemFault.ofText? root := by
  have hname : workspaceVariable.systemFault? = none := by decide
  have hclean : workspaceVariable.contains (CodePoint.scalar '\x00') = false := by decide
  unfold SystemFault.ofText? SystemFault.ofTexts?
  rw [List.findSome?_cons, hname, List.any_cons, hclean, Bool.false_or]

/-- A root that the system can hold is taken into the variable. -/
theorem setVariable_of_held (p : Host) (h : SystemFault.ofText? root = none) :
    p.setVariable workspaceVariable root = .ok (p.naming root) := by
  unfold setVariable
  rw [ofTexts?_workspaceVariable, h, canonical_workspaceVariable]
  rfl

/-- Only a root that the system can hold is taken. -/
theorem held_of_setVariable (h : p.setVariable workspaceVariable root = .ok p') :
    SystemFault.ofText? root = none := by
  unfold setVariable at h
  rw [ofTexts?_workspaceVariable] at h
  split at h
  · exact absurd h (by simp)
  · assumption

theorem get?_naming (p : Host) (root name : Text) :
    (p.naming root).bindings.get? name
      = if name = workspaceVariable then some (canonical root) else p.bindings.get? name :=
  Bindings.get?_insert p.bindings workspaceVariable (canonical root) name

/-- The variable is looked up by its own name only. -/
theorem lookup_naming (h : name ≠ workspaceVariable) :
    (p.naming root).lookup name = p.lookup name := by
  have hname : canonical name ≠ workspaceVariable :=
    fun heq => h (canonical_eq_of_ascii (by decide) heq)
  unfold lookup
  rw [get?_naming, if_neg hname]

theorem lookup_naming_of_holds (h : p.bindings.get? workspaceVariable = some (canonical root))
    (name : Text) : (p.naming root).lookup name = p.lookup name := by
  unfold lookup
  rw [get?_naming]
  by_cases hname : canonical name = workspaceVariable
  · rw [if_pos hname, hname, h]
  · rw [if_neg hname]

theorem userHome_naming (p : Host) (root : Text) : (p.naming root).userHome = p.userHome := by
  have hne : homeVariable ≠ workspaceVariable := by decide
  unfold userHome
  rw [get?_naming, if_neg hne]
  rfl

theorem home_naming (p : Host) (root : Text) : (p.naming root).home = p.home := by
  unfold home
  rw [userHome_naming]

end WorkspacePaths.Host
