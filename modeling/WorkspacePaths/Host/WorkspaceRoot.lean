import WorkspacePaths.Host.Basic

/-!
# `Host.WorkspaceRoot` — the workspace root that a path names

A workspace root is absolute and normalised: the current directory if none is given, else the path
given, with a tilde at the front of a relative path expanded, seen from the current directory and
walked to its end. Links are left alone, so the root keeps the spelling that the user chose.

## Contents
- `HomeFault`: why a tilde cannot be expanded.
- `expandHome`: a tilde at the front of a path.
- `rootOf`: the root, or why there is none; `workspaceRoot`: the root, if there is one.
-/

namespace WorkspacePaths

/-- Why the tilde at the front of a path cannot be expanded. -/
inductive HomeFault where
  /-- The home directory cannot be determined: the user is not known, or has none. -/
  | undetermined
  /-- The system refuses the name of the user. -/
  | refused (fault : SystemFault)
deriving DecidableEq

namespace Host

/-- The path with a tilde at its front expanded. Only the first part of a relative path can hold
one. -/
def expandHome (p : Host) (s : Spelling) : Except HomeFault Spelling :=
  match s.parts with
  | first :: rest =>
    if s.lead = [] && first.startsWith "~" then
      match p.expandTilde first with
      | .error fault => .error (.refused fault)
      | .ok home =>
        if home.startsWith "~" then .error .undetermined
        else
          let base := Spelling.ofText home
          .ok { base with parts := base.parts ++ rest }
    else .ok s
  | [] => .ok s

/-- The workspace root that a path names, the current directory if no path is given, or why it names
none. -/
def rootOf (p : Host) : Option Text → Except HomeFault Text
  | none => .ok (spelled p.cwd)
  | some path =>
    (p.expandHome (Spelling.ofText path)).map (fun s => spelled (absolute p.cwd s.toText))

/-- The workspace root that a path names, if it names one. -/
def workspaceRoot (p : Host) (path : Option Text) : Option Text := (p.rootOf path).toOption

/-! ## Examples -/

example : rootOf { users := [("anna", "/home/anna/")] } (some "~anna/./ws") = .ok "/home/anna/ws" := rfl

example : rootOf {} (some "./~anna") = .error .undetermined := rfl

example : rootOf { refusedUser := SystemFault.ofText? } (some [.scalar '~', .surrogate 0])
    = .error (.refused (.encoding ⟨.surrogate 0, 0, 0⟩)) := rfl

end Host

end WorkspacePaths
