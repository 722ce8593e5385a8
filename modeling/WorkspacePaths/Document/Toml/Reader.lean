import WorkspacePaths.Document.Toml.Namespace
import WorkspacePaths.Document.Toml.Scalar

/-!
# `Document.Toml.Reader` — TOML documents become values

A document is a list of statements, one to a line: a key with a value, or a header that begins the
section of a table or of an item of an array of tables.

## Contents
- **Keys and values.** `key`, `array`, `inlineTable`, `value`.
- **Statements.** `statement`.
- **Documents.** `read`.
-/

namespace WorkspacePaths.Toml

open Reader

/-! ## Keys -/

/-- A code point of a key that needs no quotes. -/
def isBareKey (c : CodePoint) : Bool :=
  match c with
  | .scalar x => x.isAlphanum || x = '-' || x = '_'
  | .surrogate _ => false

/-- A key part begins with the code point. -/
def startsKey (c : CodePoint) : Bool :=
  isBareKey c || c = CodePoint.scalar '"' || c = CodePoint.scalar '\''

/-- Reads one part of a key. -/
def keyPart : Reader Text := do
  match ← peek with
  | none => fail .keyExpected
  | some c =>
    if isBareKey c then takeWhile isBareKey
    else if c = CodePoint.scalar '\'' then literalText
    else if c = CodePoint.scalar '"' then do skip 1; basicText false
    else fail .keyExpected

/-- Reads a key, its parts and the points between them. -/
def key : Reader Key := do loop (← get).rest.length
where
  /-- Reads a part and, behind a point, the parts that follow; each takes a code point, so `fuel` is
  enough. -/
  loop : Nat → Reader Key
    | 0 => fail .keyExpected
    | fuel + 1 => do
      let part ← keyPart
      skipBlanks
      if ← lookingAt "." then
        skip 1
        skipBlanks
        return part :: (← loop fuel)
      return [part]

/-! ## Values -/

/-- Reads a key and its value. -/
def pair (value : Reader Value) : Reader (Key × Value) := do
  let k ← key
  if !(← lookingAt "=") then fail .equalsExpected
  skip 1
  skipBlanks
  return (k, ← value)

/-- Reads an array, whose opening bracket stands behind the cursor. -/
def array (value : Reader Value) : Reader Value := do
  skip 1
  skipLayout
  loop [] (← get).rest.length
where
  /-- Reads on behind `items`, which are last first. -/
  loop (items : List Value) : Nat → Reader Value
    | 0 => fail .valueExpected
    | fuel + 1 => do
      if ← lookingAt "]" then
        skip 1
        return .array items.reverse
      let item ← value
      skipLayout
      if ← lookingAt "]" then
        skip 1
        return .array (item :: items).reverse
      if !(← lookingAt ",") then fail .arrayNotClosed
      skip 1
      skipLayout
      loop (item :: items) fuel

/-- Reads an inline table, whose opening brace stands behind the cursor. -/
def inlineTable (value : Reader Value) : Reader Value := do
  skip 1
  skipBlanks
  if ← lookingAt "\x7d" then
    skip 1
    return .object []
  loop [] [] (← get).rest.length
where
  /-- Puts a pair into the table. -/
  add (table : Members) (marks : List Mark) (k : Key) (v : Value) : Reader Members := do
    if isFrozen marks k then fail (.immutable k)
    let name := k.getLast?.getD []
    match updateAt false some k.dropLast table with
    | none => fail .overwritten
    | some table =>
      match updateAt false (addNew name v) k.dropLast table with
      | none => fail (.repeatedInlineKey name)
      | some table => return table
  /-- Reads a pair and, behind a comma, the pairs that follow. -/
  loop (table : Members) (marks : List Mark) : Nat → Reader Value
    | 0 => fail .keyExpected
    | fuel + 1 => do
      let (k, v) ← pair value
      let table ← add table marks k v
      skipBlanks
      if ← lookingAt "\x7d" then
        skip 1
        return .object table
      if !(← lookingAt ",") then fail .inlineTableNotClosed
      let marks :=
        match v with
        | .object _ | .array _ => .frozen k :: marks
        | _ => marks
      skip 1
      skipBlanks
      loop table marks fuel

/-- Reads a date, a time, a number or one of the words for numbers. -/
def atom : Reader Value := do
  let rest := (← get).rest
  match dateTime? rest with
  | some (some v, length) =>
    skip length
    return v
  | some (none, _) => fail .invalidDate
  | none =>
    if timeLength rest > 0 then
      skip (timeLength rest)
      return .time
    match number? rest with
    | some (.ok v, length) =>
      skip length
      return v
    | some (.error fault, _) => throw fault
    | none =>
      let sign := signLength rest
      let word := (rest.drop sign).take 3
      if word = ("inf" : Text) || word = ("nan" : Text) then
        skip (sign + 3)
        return .float
      fail .valueExpected

/-- How deep arrays and inline tables may lie inside one another, where an array counts two and an
inline table three. -/
def nestingLimit : Nat := 984

/-- Reads a value; `depth` is how deep arrays and inline tables may still lie inside it. -/
def value : Nat → Reader Value
  | 0 | 1 => throw .tooDeep
  | depth + 2 => do
    if ← lookingAt "\"\"\"" then return .text (← linesText '"' false)
    if ← lookingAt "\"" then do skip 1; return .text (← basicText false)
    if ← lookingAt "'''" then return .text (← linesText '\'' true)
    if ← lookingAt "'" then return .text (← literalText)
    if ← lookingAt "true" then do skip 4; return .bool true
    if ← lookingAt "false" then do skip 5; return .bool false
    if ← lookingAt "[" then return ← array (value depth)
    if ← lookingAt "\x7b" then
      return ← inlineTable (match depth with | 0 => throw .tooDeep | inner + 1 => value inner)
    atom

/-! ## Statements -/

/-- Takes the store that a step leads to, or fails with its defect here. -/
def settled (step : Except Defect Store) : Reader Store :=
  match step with
  | .ok s => pure s
  | .error defect => fail defect

/-- Reads a header, whose opening bracket stands behind the cursor. -/
def header (s : Store) : Reader Store := do
  let s := s.closeSection
  let isItem ← lookingAt "[["
  skip (if isItem then 2 else 1)
  skipBlanks
  let k ← key
  if isItem then
    let s ← settled (s.declareItem k)
    if !(← lookingAt "]]") then fail .arrayHeaderNotClosed
    skip 2
    return s
  else
    let s ← settled (s.declareTable k)
    if !(← lookingAt "]") then fail .tableHeaderNotClosed
    skip 1
    return s

/-- Reads a statement, a comment or nothing, up to the end of the line. -/
def statement (s : Store) : Reader Store := do
  match ← peek with
  | none => return s
  | some c =>
    if c = CodePoint.scalar '\n' || c = CodePoint.scalar '#' then return s
    let s ←
      if startsKey c then do
        let (k, v) ← pair (value nestingLimit)
        settled (s.assign k v)
      else if c = CodePoint.scalar '[' then header s
      else fail .invalidStatement
    skipBlanks
    return s

/-- Reads lines up to the end of the document; each takes a code point, so `fuel` is enough. -/
def lines (s : Store) : Nat → Reader Store
  | 0 => return s
  | fuel + 1 => do
    skipBlanks
    let s ← statement s
    skipComment
    match ← peek with
    | none => return s
    | some c =>
      if c ≠ CodePoint.scalar '\n' then fail .newlineExpected
      skip 1
      lines s fuel

/-! ## Documents -/

/-- The value of a document, which is always an object. -/
def read (source : Text) : Except Fault Members := do
  let (s, _) ← (lines {} (source.length + 1)).run ⟨0, source⟩
  return s.table

end WorkspacePaths.Toml
