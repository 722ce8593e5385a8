import WorkspacePaths.Text.Basic

/-!
# `Path.Drive` — drives and shares at the front of a path

On a platform with drives a path may begin with the name of what it lies on: a drive letter and a
colon, or a share spelled with two separators, a server, a separator and a share name. Both slashes
are separators here. A share whose second name is missing is still a share, and takes the whole
path. The form for long share names puts eight further characters before the server.

## Contents
- `driveLength`: how many code points name the drive or share.
- `splitDrive`: the path cut there, so that nothing is lost (`splitDrive_append`).
-/

namespace WorkspacePaths.Drive

/-- A slash or a backslash. -/
def isSlash (c : CodePoint) : Bool := c = CodePoint.scalar '\\' || c = CodePoint.scalar '/'

/-- A code point with slashes read as backslashes and ASCII letters in upper case. -/
def plain (c : CodePoint) : CodePoint :=
  if isSlash c then CodePoint.scalar '\\'
  else
    match c with
    | .scalar x => CodePoint.scalar x.toUpper
    | .surrogate k => .surrogate k

/-- What the form for long share names begins with. -/
def longShareLead : Text := "\\\\?\\UNC\\"

/-- Where the server's name begins in a path that begins with two separators. -/
def serverStart (path : Text) : Nat :=
  if (path.take 8).map plain = longShareLead then 8 else 2

/-- How many code points of a path that begins with two separators name the share: everything up to
the separator after the share's own name. -/
def shareLength (path : Text) : Nat :=
  let tail := path.drop (serverStart path)
  let server := tail.takeWhile (fun c => !isSlash c)
  match tail.dropWhile (fun c => !isSlash c) with
  | [] => path.length
  | _ :: rest =>
    let share := rest.takeWhile (fun c => !isSlash c)
    serverStart path + server.length + 1 + share.length

/-- How many code points name the drive or share that a path lies on. -/
def driveLength (path : Text) : Nat :=
  match path with
  | a :: b :: _ =>
    if isSlash a && isSlash b then shareLength path
    else if b = CodePoint.scalar ':' then 2
    else 0
  | _ => 0

/-- The drive or share of a path, and what follows it. -/
def splitDrive (path : Text) : Text × Text :=
  (path.take (driveLength path), path.drop (driveLength path))

/-- The two parts make up the path. -/
theorem splitDrive_append (path : Text) : (splitDrive path).1 ++ (splitDrive path).2 = path :=
  List.take_append_drop _ _

@[simp] theorem splitDrive_nil : splitDrive [] = ([], []) := rfl

/-! ## Examples -/

example : (splitDrive "c:x").1 = ("c:" : Text) := by decide

example : (splitDrive "//server/share/x").1 = ("//server/share" : Text) := by decide

example : (splitDrive "//server").1 = ("//server" : Text) := by decide

example : (splitDrive "\\\\?\\unc\\server\\share\\x").1 = ("\\\\?\\unc\\server\\share" : Text) := by
  decide

end WorkspacePaths.Drive
