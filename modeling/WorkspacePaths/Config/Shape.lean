import WorkspacePaths.Config.Basic
import WorkspacePaths.Document.Value

/-!
# `Config.Shape` — documents of the right shape become configurations

A document must have objects, arrays and texts where settings stand; members with other names may be
anything. The members are read in the order of the document, so of several faults the first one
there is reported, with the place where it lies.

## Contents
- **Faults.** `Mismatch`, a value of the wrong kind at a place, and `ShapeFault`.
- **Values.** `Value.asText`, `Value.asTextOrNull`, `Value.asTexts`, `Value.asMembers`: a value that
  must be of a kind.
- **Members.** `readMembers`, in order, with `readMember` for the document and one more for each
  section.
- **Configurations.** `Config.ofMembers`.
-/

namespace WorkspacePaths

/-! ## Faults -/

/-- A value of another kind than the one that must stand at a place. -/
structure Mismatch where
  expected : Text
  found : Text
  place : Text
deriving DecidableEq

/-- The message for a mismatch. -/
def Mismatch.message (m : Mismatch) : Text :=
  ("Expected `" : Text) ++ m.expected ++ ("`, got `" : Text) ++ m.found ++ ("` - at `" : Text)
    ++ m.place ++ ("`" : Text)

/-- Why a document is no configuration. -/
inductive ShapeFault where
  | mismatch (m : Mismatch)
  /-- A key has no UTF-8 form, so that it cannot be compared with the names of settings. -/
  | key (fault : Text.EncodingFault)
deriving DecidableEq

/-! ## Values -/

/-- The fault that a value of another kind than `expected` stands at `place`. -/
def Value.refuse (v : Value) (expected place : Text) : ShapeFault :=
  .mismatch ⟨expected, v.kind, place⟩

/-- A value that must be a text. -/
def Value.asText (place : Text) : Value → Except ShapeFault Text
  | .text t => .ok t
  | v => .error (v.refuse "str" place)

/-- A value that must be a text or null. -/
def Value.asTextOrNull (place : Text) : Value → Except ShapeFault (Option Text)
  | .text t => .ok (some t)
  | .null => .ok none
  | v => .error (v.refuse "str | null" place)

/-- Values that must be texts; the first of them has the given index. -/
def textsFrom (place : Text) (index : Nat) : List Value → Except ShapeFault (List Text)
  | [] => .ok []
  | v :: rest => do
    let t ← v.asText (place ++ ("[" : Text) ++ Text.ofNat index ++ ("]" : Text))
    return t :: (← textsFrom place (index + 1) rest)

/-- A value that must be an array of texts. -/
def Value.asTexts (place : Text) : Value → Except ShapeFault (List Text)
  | .array items => textsFrom place 0 items
  | v => .error (v.refuse "array" place)

/-- A value that must be an object. -/
def Value.asMembers (place : Text) : Value → Except ShapeFault Members
  | .object members => .ok members
  | v => .error (v.refuse "object" place)

/-! ## Members -/

/-- Reads the members of an object in order, each with what is read so far. A key must have a UTF-8
form. -/
def readMembers (read : Config → Text → Value → Except ShapeFault Config) :
    Members → Config → Except ShapeFault Config
  | [], c => .ok c
  | (key, value) :: rest, c =>
    match key.encodingFault? with
    | some fault => .error (.key fault)
    | none => do readMembers read rest (← read c key value)

/-- The place of a member of an object. -/
def memberPlace (place key : Text) : Text := place ++ ("." : Text) ++ key

/-- Reads a member of the workspace section. -/
def readWorkspaceMember (place : Text) (c : Config) (key : Text) (value : Value) :
    Except ShapeFault Config := do
  let here := memberPlace place key
  if key = ("workspaceRoots" : Text) then return { c with workspaceRoots := ← value.asTexts here }
  if key = ("library" : Text) then return { c with library := ← value.asTexts here }
  if key = ("ignoreDir" : Text) then return { c with ignoreDir := ← value.asTexts here }
  if key = ("ignoreGlobs" : Text) then return { c with ignoreGlobs := ← value.asTexts here }
  return c

/-- Reads a member of the resource section. -/
def readResourceMember (place : Text) (c : Config) (key : Text) (value : Value) :
    Except ShapeFault Config := do
  if key = ("paths" : Text) then
    return { c with resourcePaths := ← value.asTexts (memberPlace place key) }
  return c

/-- Reads a member of the document. -/
def readMember (c : Config) (key : Text) (value : Value) : Except ShapeFault Config := do
  let here := memberPlace "$" key
  if key = ("$schema" : Text) then return { c with schema := ← value.asTextOrNull here }
  if key = ("workspace" : Text) then
    return ← readMembers (readWorkspaceMember here) (← value.asMembers here) c
  if key = ("resource" : Text) then
    return ← readMembers (readResourceMember here) (← value.asMembers here) c
  return c

/-- The configuration that a document holds. -/
def Config.ofMembers (document : Members) : Except ShapeFault Config :=
  readMembers readMember document {}

end WorkspacePaths
