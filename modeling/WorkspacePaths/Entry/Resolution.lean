import WorkspacePaths.Entry.Anchor
import WorkspacePaths.Entry.Expansion
import WorkspacePaths.Path.Normal
import WorkspacePaths.Path.Walk
import WorkspacePaths.Text.Quoted

/-!
# `Entry.Resolution` — entries become paths

An entry is expanded, anchored and normalised. Two things can stand in the way, and both are
reported and passed over: a workspace root that has no UTF-8 form leaves the entry with its
variables expanded, and an entry that is relative to a home directory which does not exist stays
expanded.

## Contents
- **Roots.** `Root`: a workspace root and the form in which it was given, which reports show.
- **One entry.** `resolve`.
- **Several.** `resolveAll` resolves entries in order and drops repeats (`dropRepeats`).
-/

namespace WorkspacePaths

/-! ## Roots -/

/-- The form in which a workspace root is given. -/
inductive RootForm where
  /-- A text, used as it is. -/
  | text
  /-- A path that is never looked up; it takes its spelling. -/
  | lexical
  /-- A path of the file system; it takes its spelling. -/
  | located
deriving DecidableEq

/-- A workspace root as it is given. -/
structure Root where
  form : RootForm
  given : Text
deriving DecidableEq

namespace Root

/-- A root given as text. -/
def ofText (t : Text) : Root := ⟨.text, t⟩

/-- The root as text. -/
def text (r : Root) : Text :=
  match r.form with
  | .text => r.given
  | .lexical | .located => spelled r.given

/-- The root as reports show it. -/
def shown (r : Root) : Text :=
  match r.form with
  | .text => r.text.quoted
  | .lexical => ("PurePosixPath(" : Text) ++ r.text.quoted ++ (")" : Text)
  | .located => ("PosixPath(" : Text) ++ r.text.quoted ++ (")" : Text)

@[simp] theorem text_ofText (t : Text) : (ofText t).text = t := rfl

end Root

/-! ## One entry -/

/-- The report that a workspace root has no UTF-8 form. -/
def rootMessage (root : Root) : Text := ("Workspace path is not valid UTF-8: " : Text) ++ root.shown

/-- The message of a home directory that is looked for in vain. -/
def homeMessage : Text := "Home directory not found"

/-- The report that an entry stays as it is for want of a home directory. -/
def unanchoredMessage (t : Text) : Text :=
  homeMessage ++ ("; leaving " : Text) ++ t.quoted ++ (" unanchored" : Text)

/-- Anchors and normalises an expanded entry. -/
def settle (env : Environment) (f : Flavour) (root t : Text) : Resolution Text := do
  match anchor env f root t with
  | some path => return normalise f path
  | none =>
    Logged.report .error (unanchoredMessage t)
    return t

/-- The path that an entry stands for. -/
def resolve (env : Environment) (f : Flavour) (root : Root) (entry : Text) : Resolution Text := do
  let expanded ← expandVariables env entry
  if root.text.hasSurrogate then
    Logged.report .error (rootMessage root)
    return expanded
  else
    settle env f root.text (← replacePlaceholders env root.text expanded)

/-! ## Several entries -/

/-- The members of a list without those that stand in `seen`, each at its first place. -/
def dropRepeats (seen : List Text) : List Text → List Text
  | [] => []
  | t :: rest => if t ∈ seen then dropRepeats seen rest else t :: dropRepeats (t :: seen) rest

/-- The paths that entries stand for, each once, in the order in which they first come up. -/
def resolveAll (env : Environment) (f : Flavour) (root : Root) (entries : List Text) :
    Resolution (List Text) := do
  return dropRepeats [] (← Logged.forEach (resolve env f root) entries)

end WorkspacePaths
