import WorkspacePaths.Config.Failure
import WorkspacePaths.Text.Utf8

/-!
# `Config.Loader` — configurations from files

A workspace keeps its configuration in one of two files. The JSON file is preferred; the TOML file
is taken only if it is the one that is there. A loader is bound to the file chosen when it was made.
It remembers the last document that it read, and reads the file again only if it was written since.

A file is there or not, unless the system refuses to look its path up: that is a fault of its own,
whether it happens when a file is chosen or when it is read. A file that is found can be read; that its
content is kept from the process by permissions is not modelled.

## Contents
- **Formats.** `Format`, with the names of the files, and `Format.parse`.
- **Files.** `Loader.find`, `Loader.isThere`; `Loader.chosen`, the file that is chosen.
- **Loaders.** `Loader`, `Loader.ofRoot`, `Loader.document`, `Loader.load`.
- **Loading.** `loadConfig`: choose, read, check and resolve.
-/

namespace WorkspacePaths

/-! ## Formats -/

/-- The format of a configuration file. -/
inductive Format where
  | json
  | toml
deriving DecidableEq

namespace Format

/-- The name of the file that a workspace keeps its configuration in. -/
def fileName : Format → Text
  | json => ".emmyrc.json"
  | toml => ".emmyrc.toml"

/-- The document that the bytes of a file hold. Only an object is a configuration. -/
def parse (format : Format) (content : List UInt8) : Except DocumentFault Members :=
  match Utf8.decode content with
  | none => .error .notUtf8
  | some text =>
    match format with
    | json =>
      let source := Utf8.unifyNewlines text
      match Json.read source with
      | .ok (.object members) => .ok members
      | .ok _ => .error .notObject
      | .error fault => .error (.json fault source)
    | toml =>
      let source := Utf8.joinNewlines text
      match Toml.read source with
      | .ok members => .ok members
      | .error fault => .error (.toml fault source)

end Format

/-! ## Loaders -/

/-- A document that was read, with the stamp of the file at that time. -/
structure Reading where
  stamp : Nat
  document : Members

/-- What reads one configuration file. -/
structure Loader where
  format : Format
  path : Text
  /-- The last document that was read. -/
  last : Option Reading := none

namespace Loader

/-- The file that is found at a path. A path that the system has no name for leads to none. -/
def find (p : Host) (path : Text) : Except ConfigFault (Option File) :=
  if (SystemFault.ofText? path).isSome then .ok none
  else
    match p.refusedPath path with
    | some refusal => .error (.refused path refusal)
    | none => .ok (p.file? path)

/-- There is a file at a path. -/
def isThere (p : Host) (path : Text) : Except ConfigFault Bool := (find p path).map Option.isSome

/-- The path of a workspace's configuration file. -/
def pathIn (root : Text) (format : Format) : Text := posixJoin root format.fileName

/-- The format of the file that is chosen in a normalised root. The TOML file is looked for only if
there is no JSON file. -/
def chosen (p : Host) (root : Text) : Except ConfigFault Format := do
  if ← isThere p (pathIn root .json) then return .json
  if ← isThere p (pathIn root .toml) then return .toml
  return .json

/-- The loader for the configuration of a workspace. -/
def ofRoot (p : Host) (root : Option Text) : Except Failure Loader :=
  match p.rootOf root with
  | .error fault => .error (.ofHome fault)
  | .ok root =>
    match chosen p root with
    | .error fault => .error (.config fault)
    | .ok format => .ok { format, path := pathIn root format }

/-- The document of the loader's file, remembered if the file was not written since it was read, and
the loader afterwards. Only a document that could be read is remembered. -/
def document (l : Loader) (p : Host) : Except ConfigFault Members × Loader :=
  match find p l.path with
  | .error fault => (.error fault, l)
  | .ok none => (.error (.missing l.path), l)
  | .ok (some file) =>
    match l.last.filter (fun r => r.stamp = file.stamp) with
    | some reading => (.ok reading.document, l)
    | none =>
      match l.format.parse file.content with
      | .ok document => (.ok document, { l with last := some ⟨file.stamp, document⟩ })
      | .error fault => (.error (.unreadable l.path fault), l)

/-- The report that a document was read. -/
def loadedMessage (path : Text) : Text := ("Loaded configuration from " : Text) ++ path

/-- The configuration that a document holds, reported as loaded from `path`. -/
def check (path : Text) (document : Except ConfigFault Members) : Attempt Config := do
  let members ← Logged.lift (document.mapError Failure.config)
  Logged.report .debug (loadedMessage path)
  Logged.lift ((Config.ofMembers members).mapError Failure.ofShape)

/-- The configuration of the loader's file, and the loader afterwards. -/
def load (l : Loader) (p : Host) : Attempt Config × Loader :=
  let (document, l') := l.document p
  (check l.path document, l')

end Loader

/-! ## Loading -/

/-- The configuration of a workspace, its paths resolved in `env`. -/
def loadConfig (p : Host) (env : Environment) (root : Option Text) : Attempt Config := do
  match p.rootOf root with
  | .error fault => Logged.fail (.ofHome fault)
  | .ok root =>
    let loader ← Logged.lift (Loader.ofRoot p (some root))
    let config ← (loader.load p).1
    (config.process env ⟨.located, root⟩).attempt

end WorkspacePaths
