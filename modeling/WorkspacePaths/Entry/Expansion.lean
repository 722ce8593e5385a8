import WorkspacePaths.Entry.Scan
import WorkspacePaths.Environment
import WorkspacePaths.Logged

/-!
# `Entry.Expansion` — variables and placeholders become text

An entry is expanded in three steps. Every variable becomes its value, where an unset one becomes
nothing and is reported. Then every dollar sign left is removed, which turns the older spelling of a
placeholder, with a dollar sign before the brace, into the present one. At last every placeholder
with a known key becomes its text: the workspace folder, or the value of a variable, where an unset
one becomes nothing without a report. Any other placeholder stays as it is written.

Text put in by one step is not read again by the same step.

## Contents
- `replaceVariables`, `stripDollars`, `replacePlaceholders`: the three steps.
- `expand`: all of them.
-/

namespace WorkspacePaths

/-- Resolution fails in one way only: a variable's name has no form that the process can look up. -/
abbrev Resolution (α : Type) := Logged Text.EncodingFault α

namespace TokenKind

/-- What the tokens of a kind are read for, as named in reports. -/
def purpose : TokenKind → Text
  | .variable => "environment variable replacement"
  | .placeholder => "placeholder replacement"

/-- The report that the pattern of a kind of token is broken. -/
def brokenMessage (kind : TokenKind) : Text :=
  ("Failed to compile pattern for " : Text) ++ kind.purpose
    ++ (": missing ), unterminated subpattern at position 0" : Text)

end TokenKind

/-! ## Variables -/

/-- The report that a variable is unset. -/
def unsetMessage (name : Text) : Text :=
  ("Environment variable " : Text) ++ name ++ (" is not set" : Text)

/-- The value of a variable; an unset one is empty, and reported. -/
def variableText (env : Environment) (name : Text) : Resolution Text := do
  match ← Logged.lift (env.lookup name) with
  | some value => return value
  | none =>
    Logged.report .warning (unsetMessage name)
    return []

/-- The text that a piece of an entry becomes when variables are replaced. -/
def Piece.variableText (env : Environment) : Piece → Resolution Text
  | .plain c => pure [c]
  | .token name => WorkspacePaths.variableText env name

/-- Every variable becomes its value. -/
def replaceVariables (env : Environment) (t : Text) : Resolution Text := do
  if env.broken.contains .variable then
    Logged.report .error TokenKind.variable.brokenMessage
    return t
  else
    let parts ← Logged.forEach (Piece.variableText env) (variablePieces t)
    return parts.flatten

/-- The text without its dollar signs. -/
def stripDollars (t : Text) : Text := t.filter (fun c => c ≠ CodePoint.scalar '$')

/-! ## Placeholders -/

/-- The key of the workspace folder. -/
def workspaceFolderKey : Text := "workspaceFolder"

/-- What the key of a variable's placeholder begins with. -/
def variableKeyLead : Text := "env:"

/-- What a placeholder's key asks for. -/
inductive Reference where
  | workspaceFolder
  | variable (name : Text)
  | unknown
deriving DecidableEq

/-- What a key asks for. -/
def Reference.ofKey (key : Text) : Reference :=
  if key = workspaceFolderKey then .workspaceFolder
  else if key.startsWith variableKeyLead then .variable (key.drop variableKeyLead.length)
  else .unknown

/-- The text that a placeholder becomes. -/
def placeholderText (env : Environment) (folder key : Text) : Resolution Text := do
  match Reference.ofKey key with
  | .workspaceFolder => return folder
  | .variable name => return (← Logged.lift (env.lookup name)).getD []
  | .unknown => return CodePoint.scalar '\x7b' :: key ++ [CodePoint.scalar '\x7d']

/-- The text that a piece of an entry becomes when placeholders are replaced. -/
def Piece.placeholderText (env : Environment) (folder : Text) : Piece → Resolution Text
  | .plain c => pure [c]
  | .token key => WorkspacePaths.placeholderText env folder key

/-- Every placeholder with a known key becomes its text. -/
def replacePlaceholders (env : Environment) (folder t : Text) : Resolution Text := do
  if env.broken.contains .placeholder then
    Logged.report .error TokenKind.placeholder.brokenMessage
    return t
  else
    let parts ← Logged.forEach (Piece.placeholderText env folder) (placeholderPieces t)
    return parts.flatten

/-! ## The whole expansion -/

/-- Variables become their values and the dollar signs left are removed. -/
def expandVariables (env : Environment) (t : Text) : Resolution Text := do
  return stripDollars (← replaceVariables env t)

/-- Variables, then dollar signs, then placeholders. -/
def expand (env : Environment) (folder t : Text) : Resolution Text := do
  replacePlaceholders env folder (← expandVariables env t)

end WorkspacePaths
