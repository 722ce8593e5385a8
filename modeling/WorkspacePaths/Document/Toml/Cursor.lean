import WorkspacePaths.Document.Toml.Fault

/-!
# `Document.Toml.Cursor` — a place in a TOML document

A document is read from front to back by small readers, each of which takes what it understands and
leaves the cursor behind it, or ends with a fault.

## Contents
- **Readers.** `Cursor`, `Reader`, and the ways to fail.
- **Taking and skipping.** `peek`, `lookingAt`, `skip`, `takeWhile`, `takeUntil`.
- **Space and comments.** `skipBlanks`, `skipComment`, `skipLayout`.
-/

namespace WorkspacePaths.Toml

/-! ## Readers -/

/-- A place in a document: how much lies before it, and what lies behind it. -/
structure Cursor where
  position : Nat
  rest : Text

/-- A reader takes a part of a document and yields what it stands for. -/
abbrev Reader := StateT Cursor (Except Fault)

namespace Reader

/-- Ends with a defect `ahead` code points behind the cursor. -/
def fail {α : Type} (defect : Defect) (ahead : Nat := 0) : Reader α := do
  throw (.malformed defect ((← get).position + ahead))

/-! ## Taking and skipping -/

/-- The code point behind the cursor, `none` at the end. -/
def peek : Reader (Option CodePoint) := do return (← get).rest.head?

/-- The text behind the cursor begins with `t`. -/
def lookingAt (t : Text) : Reader Bool := do return (← get).rest.startsWith t

/-- Goes on by `n` code points. -/
def skip (n : Nat) : Reader Unit :=
  modify (fun c => ⟨c.position + n, c.rest.drop n⟩)

/-- Takes code points as long as they are of a kind. -/
def takeWhile (kind : CodePoint → Bool) : Reader Text := do
  let taken := (← get).rest.takeWhile kind
  skip taken.length
  return taken

/-- Goes on as long as code points are of a kind. -/
def skipWhile (kind : CodePoint → Bool) : Reader Unit := do
  discard (takeWhile kind)

/-- What a text holds before the first place where `stop` begins; `none` if there is no such
place. -/
def before? (stop : Text) : Text → Option Text
  | [] => if stop = [] then some [] else none
  | c :: rest => if stop.isPrefixOf (c :: rest) then some [] else (before? stop rest).map (c :: ·)

/-- Takes what lies before `stop`, or before the end of the document if `stop` is missing and need
not be there, and leaves the cursor before it. -/
def takeUntil (stop : Text) (refused : CodePoint → Bool) (required : Bool) : Reader Text := do
  let rest := (← get).rest
  let taken ←
    match before? stop rest with
    | some taken => pure taken
    | none => if required then fail (.quotesExpected stop) rest.length else pure rest
  match taken.find? refused with
  | some c => fail (.invalidCharacter c) (taken.takeWhile (fun c => !refused c)).length
  | none =>
    skip taken.length
    return taken

/-! ## Space and comments -/

/-- A space or a tab. -/
def isBlank (c : CodePoint) : Bool := c = CodePoint.scalar ' ' || c = CodePoint.scalar '\t'

/-- A space, a tab or a line end. -/
def isBlankOrNewline (c : CodePoint) : Bool := isBlank c || c = CodePoint.scalar '\n'

/-- A control character other than the tab, which no text on one line may hold. -/
def isControl (c : CodePoint) : Bool :=
  (c.value ≤ 0x1F || c.value = 0x7F) && c ≠ CodePoint.scalar '\t'

/-- A control character that no text over several lines may hold. -/
def isControlInLines (c : CodePoint) : Bool := isControl c && c ≠ CodePoint.scalar '\n'

/-- Goes on behind spaces and tabs. -/
def skipBlanks : Reader Unit := skipWhile isBlank

/-- Goes on to the end of the line if a comment begins here. -/
def skipComment : Reader Unit := do
  if ← lookingAt "#" then
    skip 1
    discard (takeUntil "\n" isControl false)

/-- Goes on behind space, line ends and comments. -/
def skipLayout : Reader Unit := do loop (← get).rest.length
where
  /-- Goes on until nothing is left to skip; `fuel` bounds the number of rounds by the text left. -/
  loop : Nat → Reader Unit
    | 0 => skipWhile isBlankOrNewline
    | fuel + 1 => do
      let start := (← get).position
      skipWhile isBlankOrNewline
      skipComment
      if (← get).position ≠ start then loop fuel

end Reader

end WorkspacePaths.Toml
