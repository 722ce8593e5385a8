import WorkspacePaths.Environment
import WorkspacePaths.Path.Walk
import WorkspacePaths.Text.Quoted
import WorkspacePaths.Text.Utf8

/-!
# `Host.Basic` — the process that a command runs in

What resolution and loading see of the world: environment variables, the current directory, files,
and the home directories known to the system. Nothing here is read from outside; a host is a
value, and changing it gives another one.

The files are a table: a path leads to a file or to none, and a file that is there can be read. The
table has no directories and links, knows no permissions, and takes paths of any length. A system does
not look up every path, though: it may refuse one that is too long, or that leads through a directory
it must not enter. Which paths it refuses, and how, is a function of its own, `refusedPath`; by default
it refuses none. It is the same with the names of users and `refusedUser`. A system that keeps names as
byte strings refuses those that have no such form, which is `SystemFault.ofText?`.

## Contents
- **The type.** `SystemFault` and `Refusal`, why the system refuses something; `Host`, `File`.
- **Variables.** `withVariables`, `lookup`, `setVariable`, `unsetVariable`. Names and values are
  byte strings, so a text is refused if it has no such form, and two texts with one form are the
  same name or value.
- **Files.** `file?`, `write`, `remove`. Every write gives the file a new stamp, also when its
  content stays the same.
- **Home directories.** `homeOf`, `expandTilde`, `home`.
- **As an environment.** `Host.environment`.
-/

namespace WorkspacePaths

/-- A file: its bytes, and the time at which they were written. -/
structure File where
  content : List UInt8
  stamp : Nat
deriving DecidableEq

/-- Why the system refuses a text as a name or a value. -/
inductive SystemFault where
  /-- It has no form as a byte string. -/
  | encoding (fault : Text.EncodingFault)
  /-- It holds a zero, which ends byte strings. -/
  | embeddedZero
deriving DecidableEq

namespace SystemFault

/-- The message of a fault. -/
def message : SystemFault → Text
  | encoding fault => fault.message
  | embeddedZero => "embedded null byte"

/-- Why the system refuses one of some texts, if it does. All of them need a form as byte strings
before any is searched for a zero. -/
def ofTexts? (ts : List Text) : Option SystemFault :=
  match ts.findSome? Text.systemFault? with
  | some fault => some (encoding fault)
  | none => if ts.any (·.contains (CodePoint.scalar '\x00')) then some embeddedZero else none

/-- Why the system refuses a text, if it does. -/
def ofText? (t : Text) : Option SystemFault := ofTexts? [t]

end SystemFault

/-- The error with which the system refuses to look a path up: its number, and what it says. -/
structure Refusal where
  code : Nat
  reason : Text
deriving DecidableEq

/-- The message of a refusal, which names the path. -/
def Refusal.message (r : Refusal) (path : Text) : Text :=
  ("[Errno " : Text) ++ Text.ofNat r.code ++ ("] " : Text) ++ r.reason ++ (": " : Text) ++ path.quoted

/-- The process that a command runs in, and what the system knows. -/
structure Host where
  /-- The environment variables, their names and values as the system gives them back. -/
  bindings : Bindings := []
  /-- The current directory. -/
  cwd : Text := "/cwd"
  /-- The files, by absolute path. -/
  files : List (Text × File) := []
  /-- How many writes there have been. -/
  clock : Nat := 0
  /-- The home directory that the system knows for the user. -/
  ownHome : Option Text := none
  /-- The home directories that the system knows for other users, whose names are as the system gives
  them back. -/
  users : Bindings := []
  /-- The words of the command line. -/
  arguments : List Text := []
  /-- The kinds of token whose pattern is broken. -/
  broken : List TokenKind := []
  /-- Why the system refuses a name as that of a user, if it does. -/
  refusedUser : Text → Option SystemFault := fun _ => none
  /-- How the system refuses to look a path up, if it does. -/
  refusedPath : Text → Option Refusal := fun _ => none

namespace Host

/-! ## Variables -/

/-- The host with these variables and no others. -/
def withVariables (p : Host) (given : Bindings) : Host :=
  { p with bindings := given.map (fun b => (Utf8.canonical b.1, Utf8.canonical b.2)) }

/-- The value of a variable, `none` if it is unset. -/
def lookup (p : Host) (name : Text) : Except Text.EncodingFault (Option Text) :=
  match name.systemFault? with
  | some fault => .error fault
  | none => .ok (p.bindings.get? (Utf8.canonical name))

/-- The host with a variable set. -/
def setVariable (p : Host) (name value : Text) : Except SystemFault Host :=
  match SystemFault.ofTexts? [name, value] with
  | some fault => .error fault
  | none =>
    .ok { p with bindings := p.bindings.insert (Utf8.canonical name) (Utf8.canonical value) }

/-- The host with a variable unset. -/
def unsetVariable (p : Host) (name : Text) : Except Text.EncodingFault Host :=
  match name.systemFault? with
  | some fault => .error fault
  | none => .ok { p with bindings := p.bindings.erase (Utf8.canonical name) }

/-- The host with a variable as it was before: set to the value that it had, or unset. -/
def restoreVariable (p : Host) (name : Text) : Option Text → Host
  | some value => { p with bindings := p.bindings.insert name value }
  | none => { p with bindings := p.bindings.erase name }

/-! ## Files -/

/-- The absolute path by which a file is known: one slash at the front, and the names that the path
leads through. -/
def fileKey (p : Host) (path : Text) : Text :=
  ("/" : Text) ++ Text.joinWith "/" (walk [] (posixJoin p.cwd path))

/-- The file at a path. -/
def file? (p : Host) (path : Text) : Option File := p.files.lookup (p.fileKey path)

/-- The host without the file at a path. -/
def remove (p : Host) (path : Text) : Host :=
  { p with files := p.files.filter (fun f => f.1 ≠ p.fileKey path) }

/-- The host with a file written. -/
def write (p : Host) (path : Text) (content : List UInt8) : Host :=
  { p.remove path with
    files := (p.fileKey path, ⟨content, p.clock⟩) :: (p.remove path).files
    clock := p.clock + 1 }

/-! ## Home directories -/

/-- The variable that names the user's home directory. -/
def homeVariable : Text := "HOME"

/-- The home directory of the user. -/
def userHome (p : Host) : Option Text := p.bindings.get? homeVariable <|> p.ownHome

/-- The home directory of a user, of the present one if no name is given. A name is looked up by the
byte string that it stands for, unless the system refuses it. -/
def homeOf (p : Host) (name : Text) : Except SystemFault (Option Text) :=
  if name = [] then .ok p.userHome
  else
    match p.refusedUser name with
    | some fault => .error fault
    | none => .ok (p.users.get? (Utf8.canonical name))

/-- The text without the slashes at its end. -/
def stripTrailingSlashes (t : Text) : Text :=
  (t.reverse.dropWhile (fun c => c = CodePoint.scalar '/')).reverse

/-- What lies in a home directory. -/
def inHome (home rest : Text) : Text :=
  let whole := stripTrailingSlashes home ++ rest
  if whole = [] then "/" else whole

/-- A tilde at the front, with the name behind it, becomes the user's home directory; a text without
one, and one that names an unknown user, stay as they are. -/
def expandTilde (p : Host) (t : Text) : Except SystemFault Text :=
  match t with
  | .scalar '~' :: rest =>
    let name := rest.takeWhile (fun c => c ≠ CodePoint.scalar '/')
    (p.homeOf name).map fun home =>
      match home with
      | none => t
      | some home => inHome home (rest.drop name.length)
  | _ => .ok t

/-- The user's home directory; `none` if there is none to put in place of a tilde. -/
def home (p : Host) : Option Text := do
  let path := inHome (← p.userHome) []
  if path.startsWith "~" then none else some (spelled path)

/-! ## As an environment -/

/-- What resolution reads of a host. -/
def environment (p : Host) : Environment where
  lookup := p.lookup
  home := p.home
  broken := p.broken

end Host

end WorkspacePaths
