import WorkspacePaths.Path.Flavour

/-!
# `Path.Normal` — lexical normal forms

A path is folded by its text alone: `.` goes away and `..` takes the name before it with it. At a
root, or on a drive, a `..` with no name before it is dropped, as there is nothing above; in a
relative path it is kept. The file system is never asked, so links play no part.

## Contents
- **Positions.** `Position` is what has been read of a path: the drive, whether a root was passed
  and the names, last first. `Position.step` reads one component.
- **Normal forms.** `normalise` folds the components of a path and writes the position reached.
-/

namespace WorkspacePaths

/-- Where the components read so far lead. -/
structure Position where
  /-- The drive or share, empty if the path names none. -/
  drive : Text := []
  /-- A root was passed. -/
  rooted : Bool := false
  /-- The names on the way down, last first; `..` among them leads up. -/
  names : List Text := []
deriving DecidableEq

namespace Position

/-- The name that leads up. -/
def up : Text := ".."

/-- Remembers a step up, unless there is nothing above. -/
def keepUp (p : Position) : Position :=
  if p.rooted || p.drive ≠ [] then p else { p with names := up :: p.names }

/-- Going up takes the last name away. With none to take, it is remembered in a relative path and
does nothing at a root or on a drive. -/
def goUp (p : Position) : Position :=
  match p.names with
  | name :: rest => if name = up then p.keepUp else { p with names := rest }
  | [] => p.keepUp

/-- Reads one component. -/
def step (p : Position) : Component → Position
  | .drive name => { p with drive := name }
  | .root => { p with rooted := true }
  | .current => p
  | .parent => p.goUp
  | .name text => { p with names := text :: p.names }

/-- The path to a position: its drive, a separator if it is rooted, and its names. -/
def render (f : Flavour) (p : Position) : Text :=
  p.drive ++ (if p.rooted then f.separator else []) ++ Text.joinWith f.separator p.names.reverse

end Position

/-- Where a path leads. -/
def Flavour.position (f : Flavour) (path : Text) : Position :=
  (f.components path).foldl Position.step {}

/-- The lexical normal form of a path. -/
def normalise (f : Flavour) (path : Text) : Text := (f.position path).render f

/-! ## Examples -/

example : normalise .posix "a/./b/../c" = ("a/c" : Text) := by decide

example : normalise .posix "/a/../../b" = ("/b" : Text) := by decide

example : normalise .posix "../../a" = ("../../a" : Text) := by decide

example : normalise .windows "c:/a\\..\\..\\b" = ("c:\\b" : Text) := by decide

example : normalise .windows "//server/share" = ("//server/share\\" : Text) := by decide

end WorkspacePaths
