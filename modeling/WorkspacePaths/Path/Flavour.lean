import WorkspacePaths.Path.Drive

/-!
# `Path.Flavour` — how a platform spells paths

A flavour says which texts separate the names of a path and whether a path may lie on a drive. All
that follows from it is decided here, so that folding, joining and anchoring need not know the
platform: the drive of a path, whether the path is rooted and absolute, and its components.

## Contents
- **Flavours.** `Flavour`, `Flavour.posix`, `Flavour.windows`.
- **Classification.** `splitDrive`, `isShare`, `hasRoot`, `isAbsolute`, `stripLeading`.
- **Components.** `Component` and `components`: drive, root, then names, `.` and `..` in order.
-/

namespace WorkspacePaths

/-- How a platform spells paths. -/
structure Flavour where
  /-- The separator that is written. -/
  separator : Text
  /-- Further separators that are read. -/
  alternatives : List Text := []
  /-- Paths may lie on a drive or a share. -/
  drives : Bool := false
deriving DecidableEq

/-- One step of a path. -/
inductive Component where
  /-- The drive or share that the path lies on. -/
  | drive (name : Text)
  /-- The top of the drive, or of the tree. -/
  | root
  /-- Stay where you are. -/
  | current
  /-- Go up. -/
  | parent
  /-- Go down into a name. -/
  | name (text : Text)
deriving DecidableEq

namespace Flavour

/-- One slash separates, and there are no drives. -/
def posix : Flavour where
  separator := "/"

/-- Backslashes are written, both slashes are read, and there are drives and shares. -/
def windows : Flavour where
  separator := "\\"
  alternatives := ["/"]
  drives := true

/-! ## Classification -/

/-- Every separator that is read. -/
def separators (f : Flavour) : List Text := f.separator :: f.alternatives

/-- The drive or share of a path, empty if there is none, and what follows it. -/
def splitDrive (f : Flavour) (path : Text) : Text × Text :=
  if f.drives then Drive.splitDrive path else ([], path)

/-- The drive is a share, which is rooted whether or not a separator follows it. -/
def isShare (f : Flavour) (drive : Text) : Bool :=
  match drive with
  | a :: b :: _ => f.separators.contains [a] && f.separators.contains [b]
  | _ => false

/-- The text begins with a separator. -/
def startsAtSeparator (f : Flavour) (text : Text) : Bool :=
  f.separators.any (fun sep => text.startsWith sep)

/-- The path starts at a root, on its drive or share if it has one. -/
def hasRoot (f : Flavour) (path : Text) : Bool :=
  let (drive, rest) := f.splitDrive path
  f.isShare drive || f.startsAtSeparator rest

/-- The path does not depend on a base directory: it is rooted, and where there are drives it names
one. -/
def isAbsolute (f : Flavour) (path : Text) : Bool :=
  f.hasRoot path && (!f.drives || !(f.splitDrive path).1.isEmpty)

/-- The text without the separator characters at its front. -/
def stripLeading (f : Flavour) (text : Text) : Text :=
  text.dropWhile (fun c => f.separators.any (fun sep => sep.contains c))

/-! ## Components -/

/-- Every separator written in the one way. -/
def unifySeparators (f : Flavour) (text : Text) : Text :=
  f.alternatives.foldl (fun t alternative => t.replaceAll alternative f.separator) text

/-- The component that a name stands for; nothing between two separators stands for none. -/
def classify (part : Text) : Option Component :=
  if part = [] then none
  else if part = ("." : Text) then some .current
  else if part = (".." : Text) then some .parent
  else some (.name part)

/-- The components of a path, in order. Repeated separators count once, and one at the end counts
for nothing. -/
def components (f : Flavour) (path : Text) : List Component :=
  let (drive, rest) := f.splitDrive path
  let lead := if drive = [] then [] else [Component.drive drive]
  let root := if f.isShare drive || f.startsAtSeparator rest then [Component.root] else []
  lead ++ root ++ ((f.unifySeparators rest).splitOn f.separator).filterMap classify

end Flavour

end WorkspacePaths
