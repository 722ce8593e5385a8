import WorkspacePaths.Path.Flavour
import WorkspacePaths.Text.LowerCase

/-!
# `Path.Join` — a path seen from a base directory

Joining puts a tail behind a base. A tail that is rooted, or that lies on another drive, replaces
what it must and keeps the rest of the base: a root keeps the base's drive, and a drive that differs
in case only is the same drive.

## Contents
- `posixJoin`: one slash between the two, unless the tail is rooted.
- `driveJoin`: the rule where there are drives; `Drive.joinParts` is its case distinction.
- `Flavour.join`: the rule of a flavour.
-/

namespace WorkspacePaths

/-- The tail behind the base, with one slash between them; a rooted tail stands alone. -/
def posixJoin (base tail : Text) : Text :=
  if tail.startsWith "/" then tail
  else if base = [] || base.getLast? = some (CodePoint.scalar '/') then base ++ tail
  else base ++ ("/" : Text) ++ tail

namespace Drive

/-- The text begins with a slash of either kind. -/
def startsAtSlash (t : Text) : Bool := (t.head?.map isSlash).getD false

/-- The path with a backslash at its end, unless it is empty or ends in a slash. -/
def closed (path : Text) : Text :=
  if (path.getLast?.map isSlash).getD true then path else path ++ ("\\" : Text)

/-- The drive and the path on it that a tail names when it is seen from a base. -/
def joinParts (base tail : Text × Text) : Text × Text :=
  if startsAtSlash tail.2 then
    (if tail.1 ≠ [] || base.1 = [] then tail.1 else base.1, tail.2)
  else if tail.1 ≠ [] && tail.1 ≠ base.1 then
    if Text.lower tail.1 ≠ Text.lower base.1 then tail
    else (tail.1, closed base.2 ++ tail.2)
  else (base.1, closed base.2 ++ tail.2)

/-- A drive and a path on it, written as one: between a share and a path that is not rooted there is
a backslash. -/
def render (parts : Text × Text) : Text :=
  if parts.2 ≠ [] && !startsAtSlash parts.2 && parts.1 ≠ []
      && parts.1.getLast? ≠ some (CodePoint.scalar ':') then
    parts.1 ++ ("\\" : Text) ++ parts.2
  else parts.1 ++ parts.2

end Drive

/-- The tail seen from the base, where there are drives. -/
def driveJoin (base tail : Text) : Text :=
  Drive.render (Drive.joinParts (Drive.splitDrive base) (Drive.splitDrive tail))

/-- The tail seen from the base, by the rule of the flavour. -/
def Flavour.join (f : Flavour) (base tail : Text) : Text :=
  if f.drives then driveJoin base tail else posixJoin base tail

/-! ## Examples -/

example : posixJoin "/a" "b" = ("/a/b" : Text) := by decide

example : posixJoin "/a" "/b" = ("/b" : Text) := by decide

example : driveJoin "C:\\a" "c:b" = ("c:\\a\\b" : Text) := by decide

example : driveJoin "C:\\a" "\\b" = ("C:\\b" : Text) := by decide

example : driveJoin "C:\\a" "d:b" = ("d:b" : Text) := by decide

end WorkspacePaths
