import WorkspacePaths.Entry.Resolution

/-!
# `Config.Basic` — the path settings of a configuration

Of a configuration file only the settings that hold paths are kept: the roots, libraries, ignored
directories and ignored patterns of the workspace, the resource paths, and the schema that the file
names. Everything else is accepted and dropped.

## Contents
- **Configurations.** `Config`.
- **Processing.** `Config.process` resolves the four lists of paths; patterns are no paths and stay
  as they are.
- **Path settings.** `Config.pathSettings`, the four lists under the names by which they are shown.
-/

namespace WorkspacePaths

/-- The settings that hold paths. -/
structure Config where
  /-- The schema that the file names. -/
  schema : Option Text := none
  workspaceRoots : List Text := []
  library : List Text := []
  ignoreDir : List Text := []
  ignoreGlobs : List Text := []
  resourcePaths : List Text := []
deriving DecidableEq

namespace Config

/-- The configuration with every list of paths resolved, each on its own. -/
def process (c : Config) (env : Environment) (root : Root) : Resolution Config := do
  let resolved := resolveAll env .posix root
  let workspaceRoots ← resolved c.workspaceRoots
  let library ← resolved c.library
  let ignoreDir ← resolved c.ignoreDir
  let resourcePaths ← resolved c.resourcePaths
  return { c with workspaceRoots, library, ignoreDir, resourcePaths }

/-- The four lists of paths, by name. -/
def pathSettings (c : Config) : List (Text × List Text) :=
  [("workspaceRoots", c.workspaceRoots), ("library", c.library), ("ignoreDir", c.ignoreDir),
    ("resourcePaths", c.resourcePaths)]

end Config

end WorkspacePaths
