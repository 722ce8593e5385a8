import WorkspacePaths.Command.Numeral
import WorkspacePaths.Command.Override

/-!
# `Command.Request` — what a command line asks for

The first word names a command. The words behind it are its arguments, and among them may stand the
option that names the workspace, in a spelling with low lines for hyphens, as the usual one is taken
from the command line before. Any other word that begins with a hyphen and is no number is an
unknown option, until two hyphens alone say that everything behind them is an argument. Up to there
a word may also ask for help or for the version, which goes before anything else. Such a word may
stand before the command, too.

## Contents
- **Words.** `isOption`, `splitValue`, `namesWorkspace`.
- **Arguments.** `Arguments`, and `Arguments.ofWords?`, which reads the words behind a command.
- **Requests.** `Request`, `Request.ofWords`, with `command?` for the names of the commands.
-/

namespace WorkspacePaths.Command

/-! ## Words -/

/-- The word is an option: it begins with a hyphen and is no number. -/
def isOption (word : Text) : Bool := word.startsWith "-" && !isNumeral word

/-- An option, and the value that an equals sign joins to it. -/
def splitValue (word : Text) : Text × Option Text :=
  let option := word.takeWhile (fun c => c ≠ CodePoint.scalar '=')
  (option, if option.length < word.length then some (word.drop (option.length + 1)) else none)

/-- The word is the option that names the workspace, where a low line is as good as a hyphen. -/
def namesWorkspace (option : Text) : Bool :=
  option.startsWith "-" && option.replaceAll "_" "-" = workspaceOption

/-- Two hyphens alone, behind which every word is an argument. -/
def endOfOptions : Text := "--"

/-- The words among which options are looked for. -/
def optionWords (words : List Text) : List Text := words.takeWhile (fun word => word ≠ endOfOptions)

/-! ## Arguments -/

/-- The arguments of a command, and the workspace that is named among them. -/
structure Arguments where
  workspace : Option Text := none
  values : List Text := []
deriving DecidableEq

namespace Arguments

/-- The arguments with one more in front. -/
def before (value : Text) (a : Arguments) : Arguments := { a with values := value :: a.values }

/-- The arguments with a workspace, which may be named only once. -/
def withWorkspace? (root : Text) (a : Arguments) : Option Arguments :=
  if a.workspace.isSome then none else some { a with workspace := some root }

/-- The arguments among the words behind a command; `none` if there is an unknown option among them,
or the workspace is named twice or without its value. -/
def ofWords? : List Text → Option Arguments
  | [] => some {}
  | word :: rest =>
    if word = endOfOptions then some { values := rest }
    else if namesWorkspace (splitValue word).1 then
      match (splitValue word).2 with
      | some root => (ofWords? rest).bind (withWorkspace? root)
      | none =>
        match rest with
        | [] => none
        | root :: rest =>
          if isOption root then none else (ofWords? rest).bind (withWorkspace? root)
    else if isOption word then none
    else (ofWords? rest).map (before word)

end Arguments

/-! ## Requests -/

/-- The options that ask for help. -/
def helpOptions : List Text := ["--help", "-h"]

/-- The option that asks for the version. -/
def versionOption : Text := "--version"

/-- What a command line asks for. -/
inductive Request where
  /-- Nothing: the usage is shown. -/
  | usage
  /-- Help or the version. -/
  | info
  /-- The path settings of a workspace, which may be named. -/
  | resolve (workspace : Option Text)
  /-- The paths that entries stand for in a workspace, which may be named. -/
  | expand (workspace : Option Text) (entries : List Text)
  /-- Something that there is not. -/
  | unknown
deriving DecidableEq

namespace Request

/-- What the resolve command is asked for: its one argument is another way to name the workspace. -/
def ofResolve (a : Arguments) : Request :=
  match a.workspace, a.values with
  | workspace, [] => .resolve workspace
  | none, [workspace] => .resolve (some workspace)
  | _, _ => .unknown

/-- What the expand command is asked for. -/
def ofExpand (a : Arguments) : Request := .expand a.workspace a.values

/-- The words ask for help. -/
def asksHelp (words : List Text) : Bool := (optionWords words).any helpOptions.contains

/-- The words ask for help or for the version. -/
def asksInfo (words : List Text) : Bool :=
  asksHelp words || (optionWords words).contains versionOption

/-- What the words behind a command ask for. -/
def ofCommand (request : Arguments → Request) (words : List Text) : Request :=
  if asksInfo words then .info else ((Arguments.ofWords? words).map request).getD .unknown

/-- The words without one that asks for help. -/
def withoutHelp (words : List Text) : List Text :=
  match helpOptions.find? words.contains with
  | some option => words.erase option
  | none => words

/-- The word that stands in the place of a command, in words that ask for help: the first one, when
one that asks for help is taken out. One that asks for help or for the version may stand before
it. -/
def supposedCommand? (words : List Text) : Option Text :=
  match optionWords words with
  | first :: rest =>
    if helpOptions.contains first || first = versionOption then (withoutHelp rest).head?
    else (withoutHelp (first :: rest)).head?
  | [] => none

/-- How the arguments of a command are read, for a word that names one. -/
def command? (word : Text) : Option (Arguments → Request) :=
  if word = ("resolve" : Text) then some ofResolve
  else if word = ("expand" : Text) then some ofExpand
  else none

/-- Help can be shown where the word stands in the place of a command: it names one, or it is an
option, which cannot be meant as one. -/
def admitsHelp (word : Text) : Bool := (command? word).isSome || isOption word

/-- What words ask for that do not begin with a command. Help is shown unless a word that names no
command stands in the place of one. -/
def ofStray (words : List Text) : Request :=
  if asksHelp words then if (supposedCommand? words).all admitsHelp then .info else .unknown
  else if asksInfo words then .info
  else .unknown

/-- What the words of a command line ask for. -/
def ofWords (words : List Text) : Request :=
  match words with
  | [] => .usage
  | word :: rest =>
    match command? word with
    | some request => ofCommand request rest
    | none => ofStray words

/-! ## Examples -/

example : ofWords ["-h", "expand"] = .info := by decide

example : ofWords ["-h", "bogus"] = .unknown := by decide

example : ofWords ["bogus", "--version"] = .info := by decide

example : ofWords ["resolve", "--", "-h"] = .resolve (some "-h") := by decide

end Request

end WorkspacePaths.Command
