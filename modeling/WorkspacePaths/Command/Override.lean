import WorkspacePaths.Config.Failure

/-!
# `Command.Override` — the workspace named on the command line

The option that names the workspace may stand anywhere among the words of a command line, in two
forms: followed by its value as a word of its own, or joined to it by an equals sign. The last one
counts. A value must not be empty, nor begin with a hyphen.

## Contents
- `workspaceOption`, `checkValue`.
- `extractOverride`: the workspace, and the other words in their order.
-/

namespace WorkspacePaths.Command

/-- The option that names the workspace. -/
def workspaceOption : Text := "--workspace-root"

/-- The option with the equals sign that joins it to its value. -/
def workspaceOptionEquals : Text := "--workspace-root="

/-- The value of the option, if it is one. -/
def checkValue (value : Text) : Except Failure Text :=
  if value = [] || value.startsWith "-" then .error .valueMissing else .ok value

/-- Takes the option from the words that follow; `found` is the workspace named so far. -/
def extractFrom (found : Option Text) : List Text → Except Failure (Option Text × List Text)
  | [] => .ok (found, [])
  | word :: rest =>
    if word = workspaceOption then
      match rest with
      | [] => .error .valueMissing
      | value :: rest => do extractFrom (some (← checkValue value)) rest
    else if word.startsWith workspaceOptionEquals then do
      let value ← checkValue (word.drop workspaceOptionEquals.length)
      extractFrom (some value) rest
    else do
      let (workspace, remainder) ← extractFrom found rest
      return (workspace, word :: remainder)

/-- The workspace that a command line names, and its other words. -/
def extractOverride (words : List Text) : Except Failure (Option Text × List Text) :=
  extractFrom none words

end WorkspacePaths.Command
