import WorkspacePaths.Path.Join

/-!
# `Path.Walk` — walking a slash-separated path, and the spelling of roots

A directory is the list of names on the way down to it. Walking a path from a directory goes down
into names and up at `..`; above the top there is nothing, so a step up from there stays. Workspace
roots are spelled by this walk: absolute, without repeated slashes, `.` or `..`. Exactly two slashes
at the front are kept as they are, any other number counts as one.

## Contents
- **Walking.** `descend` takes one step, `walk` all of them.
- **Absolute paths.** `absolute` puts the current directory before a relative path and walks it.
- **Spellings.** `Spelling` is a path cut into its slashes at the front and its parts, where empty
  parts and `.` are dropped and `..` is kept; `spelled` writes it again.
-/

namespace WorkspacePaths

/-! ## Walking -/

/-- One step of a walk from a directory. -/
def descend (dir : List Text) (part : Text) : List Text :=
  if part = [] || part = ("." : Text) then dir
  else if part = (".." : Text) then dir.dropLast
  else dir ++ [part]

/-- The directory that a path leads to from `dir`; a path that begins with a slash starts at the
top. -/
def walk (dir : List Text) (path : Text) : List Text :=
  (path.splitOn "/").foldl descend (if path.startsWith "/" then [] else dir)

/-- The slashes at the front of a path as they are kept: none, one or exactly two. -/
def leadingSlashes (path : Text) : Text :=
  let n := (path.takeWhile (fun c => c = CodePoint.scalar '/')).length
  if n = 0 then [] else if n = 2 then "//" else "/"

/-! ## Absolute paths -/

/-- The path as seen from the current directory, walked to its end. -/
def absolute (cwd path : Text) : Text :=
  let whole := posixJoin cwd path
  leadingSlashes whole ++ Text.joinWith "/" (walk [] whole)

/-! ## Spellings -/

/-- A path cut into its slashes at the front and its parts. -/
structure Spelling where
  /-- No slash, one or two. -/
  lead : Text
  /-- The parts, none of them empty or `.`. -/
  parts : List Text
deriving DecidableEq

namespace Spelling

/-- Cuts a path; empty parts and `.` are dropped. -/
def ofText (path : Text) : Spelling where
  lead := leadingSlashes path
  parts := (path.splitOn "/").filter (fun part => part ≠ [] && part ≠ ("." : Text))

/-- Writes a path; one with nothing in it is `.`. -/
def toText (s : Spelling) : Text :=
  if s.lead = [] && s.parts = [] then "." else s.lead ++ Text.joinWith "/" s.parts

end Spelling

/-- The path without repeated slashes, slashes at the end and `.`. -/
def spelled (path : Text) : Text := (Spelling.ofText path).toText

end WorkspacePaths
