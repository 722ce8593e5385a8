import WorkspacePaths.Host.Basic
import WorkspacePaths.Text.Utf8

/-!
# `Host.Tables` — what the system says about a process

The system hands out the environment of a process as one block of bytes, and keeps the accounts of
its users in a table of lines.

## Contents
- `variablesOfBlock`: the variables in an environment block.
- `Account`, `accountsOfTable`: users with their home directories.
- `userOfStatus`: the number of the user that a process belongs to.
-/

namespace WorkspacePaths.Host

/-- A name with its value, cut at the first equals sign. -/
def bindingOf (t : Text) : Text × Text :=
  let name := t.takeWhile (fun c => c ≠ CodePoint.scalar '=')
  (name, t.drop (name.length + 1))

/-- The variables in an environment block, where a zero follows each of them. -/
def variablesOfBlock (block : List UInt8) : Bindings :=
  ((Utf8.decodeEscaped block).splitOn "\x00").filterMap fun t =>
    if t = [] then none else some (bindingOf t)

/-- The account of a user. -/
structure Account where
  name : Text
  user : Text
  home : Text
deriving DecidableEq

/-- The account on a line of the table, whose seven fields are parted by colons. -/
def Account.ofLine (line : Text) : Option Account :=
  match line.splitOn ":" with
  | [name, _, user, _, _, home, _] => some { name, user, home }
  | _ => none

/-- The accounts in a table. -/
def accountsOfTable (table : List UInt8) : List Account :=
  ((Utf8.decodeEscaped table).splitOn "\n").filterMap Account.ofLine

/-- The number of the user that a process belongs to: the first number on the line that begins with
`Uid:` in what the system says about it. -/
def userOfStatus (status : List UInt8) : Option Text :=
  ((Utf8.decodeEscaped status).splitOn "\n").findSome? fun line =>
    match line.splitOn "\t" with
    | label :: user :: _ => if label = ("Uid:" : Text) then some user else none
    | _ => none

/-- The host with the home directories of the accounts; the user's own one is that of its number. -/
def withAccounts (h : Host) (accounts : List Account) (user : Option Text) : Host :=
  { h with
    ownHome := (accounts.find? (fun a => some a.user = user)).map Account.home
    users := accounts.map (fun a => (a.name, a.home)) }

end WorkspacePaths.Host
