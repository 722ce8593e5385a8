import WorkspacePaths.Environment
import WorkspacePaths.Path.Join

/-!
# `Entry.Anchor` — the directory that an entry is relative to

An expanded entry is anchored by how it begins: behind a tilde to the home directory, behind `./` to
the workspace root, and if it is not absolute to the workspace root as well. Separators between the
mark and the rest are dropped, so that the rest is read as relative.

## Contents
- `Anchor`: the three cases, and `Anchor.ofText`, which decides between them.
- `anchor`: the entry behind its base, not yet normalised.
-/

namespace WorkspacePaths

/-- What an entry is relative to. -/
inductive Anchor where
  /-- The home directory, with what follows. -/
  | home (rest : Text)
  /-- The workspace root, with what follows. -/
  | workspace (rest : Text)
  /-- Nothing: the entry is absolute. -/
  | absolute
deriving DecidableEq

/-- What an entry is relative to, by how it begins. -/
def Anchor.ofText (f : Flavour) (t : Text) : Anchor :=
  match t with
  | .scalar '~' :: rest => .home (f.stripLeading rest)
  | .scalar '.' :: .scalar '/' :: rest => .workspace (f.stripLeading rest)
  | _ => if f.isAbsolute t then .absolute else .workspace t

/-- The entry behind the directory that it is relative to; `none` if that is the home directory and
there is none. -/
def anchor (env : Environment) (f : Flavour) (root t : Text) : Option Text :=
  match Anchor.ofText f t with
  | .home rest => env.home.map (fun home => f.join home rest)
  | .workspace rest => some (f.join root rest)
  | .absolute => some t

end WorkspacePaths
