import WorkspacePaths.Document.Toml.Fault
import WorkspacePaths.Document.Value

/-!
# `Document.Toml.Namespace` — which tables may still be extended

A TOML document names tables and values by keys from the top. What is at a key may be closed: inline
tables and arrays are frozen with everything below them, and a table that was declared, or made by a
dotted key in an earlier section, cannot be declared again.

## Contents
- **Marks.** `Mark`, `isFrozen`, `isDeclared`.
- **Tables.** `updateAt` changes the table at a key, making the tables on the way; the last item of
  an array of tables stands for the array.
- **Documents.** `Store`: the tables read so far, the marks, and the section that statements belong
  to.
-/

namespace WorkspacePaths.Toml

/-! ## Marks -/

/-- What is known about a key. -/
inductive Mark where
  /-- What is at the key, and everything below, is complete. -/
  | frozen (key : Key)
  /-- The table at the key was declared. -/
  | declared (key : Key)
deriving DecidableEq

/-- The key that a mark is about. -/
def Mark.key : Mark → Key
  | frozen key | declared key => key

/-- What is at the key is complete. The document as a whole never is. -/
def isFrozen (marks : List Mark) (key : Key) : Bool :=
  key ≠ [] && marks.any (fun m => match m with
    | .frozen k => k.isPrefixOf key
    | .declared _ => false)

/-- The table at the key was declared. -/
def isDeclared (marks : List Mark) (key : Key) : Bool := marks.contains (.declared key)

/-- The marks without those about a key and what is below it. -/
def release (marks : List Mark) (key : Key) : List Mark :=
  marks.filter (fun m => !key.isPrefixOf m.key)

/-! ## Tables -/

/-- Changes the table at a key, making the tables that are missing on the way. With `throughArrays`
the last item of an array stands for the array. There is no result if something else than a table is
in the way, or if the change itself is refused. -/
def updateAt (throughArrays : Bool) (change : Members → Option Members) :
    Key → Members → Option Members
  | [], table => change table
  | name :: below, table =>
    match table.get? name with
    | none =>
      (updateAt throughArrays change below []).map fun inner => table.put name (.object inner)
    | some (.object inner) =>
      (updateAt throughArrays change below inner).map fun inner => table.put name (.object inner)
    | some (.array items) =>
      match throughArrays, items.getLast? with
      | true, some (.object inner) =>
        (updateAt throughArrays change below inner).map fun inner =>
          table.put name (.array (items.dropLast ++ [.object inner]))
      | _, _ => none
    | some _ => none

/-- Puts a value under a name that is not taken. -/
def addNew (name : Text) (value : Value) (table : Members) : Option Members :=
  match table.get? name with
  | none => some (table.put name value)
  | some _ => none

/-- Puts an empty table at the end of the array under a name, which is made if it is missing. -/
def addItem (name : Text) (table : Members) : Option Members :=
  match table.get? name with
  | none => some (table.put name (.array [.object []]))
  | some (.array items) => some (table.put name (.array (items ++ [.object []])))
  | some _ => none

/-! ## Documents -/

/-- A document as far as it is read. -/
structure Store where
  /-- The tables and values read so far. -/
  table : Members := []
  marks : List Mark := []
  /-- Tables made by dotted keys in this section, which count as declared in the next. -/
  pending : List Key := []
  /-- The table that statements belong to. -/
  current : Key := []

/-- A section begins: what was pending is declared. -/
def Store.closeSection (s : Store) : Store :=
  { s with marks := s.marks ++ s.pending.map Mark.declared, pending := [] }

/-- Declares a table and begins its section. -/
def Store.declareTable (s : Store) (key : Key) : Except Defect Store :=
  if isDeclared s.marks key || isFrozen s.marks key then .error (.declaredTwice key)
  else
    match updateAt true some key s.table with
    | none => .error .overwritten
    | some table => .ok { s with table, marks := .declared key :: s.marks, current := key }

/-- Declares a further item of an array of tables and begins its section. -/
def Store.declareItem (s : Store) (key : Key) : Except Defect Store :=
  if isFrozen s.marks key then .error (.immutable key)
  else
    match updateAt true (addItem (key.getLast?.getD [])) key.dropLast s.table with
    | none => .error .overwritten
    | some table =>
      .ok { s with table, marks := .declared key :: release s.marks key, current := key }

/-- The tables that a dotted key leads through, from the section on, each by its whole key. -/
def dottedTables (parent : Key) : Key → List Key
  | [] => []
  | [_] => []
  | name :: rest => (parent ++ [name]) :: dottedTables (parent ++ [name]) rest

/-- Puts a value under a key of the present section. -/
def Store.assign (s : Store) (key : Key) (value : Value) : Except Defect Store :=
  let passed := dottedTables s.current key
  match passed.find? (isDeclared s.marks) with
  | some declared => .error (.redefined declared)
  | none =>
    let parent := s.current ++ key.dropLast
    if isFrozen s.marks parent then .error (.immutable parent)
    else
      match updateAt true (addNew (key.getLast?.getD []) value) parent s.table with
      | none => .error .overwritten
      | some table =>
        let marks :=
          match value with
          | .object _ | .array _ => .frozen (s.current ++ key) :: s.marks
          | _ => s.marks
        .ok { s with table, marks, pending := s.pending ++ passed }

end WorkspacePaths.Toml
