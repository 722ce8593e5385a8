import WorkspacePaths.Text.Basic
import WorkspacePaths.Text.Word

/-!
# `Entry.Scan` — tokens in a path entry

An entry is read once, from the left, and cut into tokens and single code points. Two kinds of token
are recognised, each by a scan of its own: a variable, which is a dollar sign and the longest run of
word characters behind it, and a placeholder, which is a key between braces.

## Contents
- **Pieces.** `Piece`: a token with its key, or a code point that belongs to none.
- **The scan.** `scan` cuts a text with a given recogniser; `scan_drop` says that passing over what
  a token took is the same as going on behind it.
- **Recognisers.** `variableAt?` and `placeholderAt?`, and the scans `variablePieces` and
  `placeholderPieces`.
-/

namespace WorkspacePaths

/-- What a scan finds at one place. -/
inductive Piece where
  /-- A code point that belongs to no token. -/
  | plain (c : CodePoint)
  /-- A token, by its key. -/
  | token (key : Text)
deriving DecidableEq

/-- A recogniser answers, for the text from some place on, whether a token begins there: its key and
how many code points it takes after the first. -/
abbrev Recogniser := Text → Option (Text × Nat)

/-- Cuts a text into pieces, after passing over `skip` code points. -/
def scan (recognise : Recogniser) : Nat → Text → List Piece
  | _, [] => []
  | skip + 1, _ :: rest => scan recognise skip rest
  | 0, c :: rest =>
    match recognise (c :: rest) with
    | some (key, further) => .token key :: scan recognise further rest
    | none => .plain c :: scan recognise 0 rest

@[simp] theorem scan_nil (recognise : Recogniser) (skip : Nat) : scan recognise skip [] = [] := by
  cases skip <;> rfl

/-- Passing over code points is the same as dropping them first. -/
theorem scan_drop (recognise : Recogniser) (skip : Nat) (t : Text) :
    scan recognise skip t = scan recognise 0 (t.drop skip) := by
  induction t generalizing skip with
  | nil => simp
  | cons c rest ih =>
    cases skip with
    | zero => rfl
    | succ k => simpa [scan] using ih k

theorem scan_cons_of_none {recognise : Recogniser} {c : CodePoint} {rest : Text}
    (h : recognise (c :: rest) = none) :
    scan recognise 0 (c :: rest) = .plain c :: scan recognise 0 rest := by
  simp [scan, h]

theorem scan_cons_of_some {recognise : Recogniser} {c : CodePoint} {rest key : Text} {further : Nat}
    (h : recognise (c :: rest) = some (key, further)) :
    scan recognise 0 (c :: rest) = .token key :: scan recognise 0 (rest.drop further) := by
  simp [scan, h, scan_drop recognise further rest]

/-! ## Recognisers -/

/-- A variable is a dollar sign and the longest run of word characters behind it, which must not be
empty. Its key is that run. -/
def variableAt? : Recogniser
  | .scalar '$' :: rest =>
    let name := rest.takeWhile CodePoint.isWord
    if name = [] then none else some (name, name.length)
  | _ => none

/-- A placeholder is an opening brace, a key that is not empty and holds no closing brace, and a
closing brace. The key may hold anything else, opening braces and line ends too. -/
def placeholderAt? : Recogniser
  | .scalar '\x7b' :: rest =>
    let key := rest.takeWhile (fun c => c ≠ CodePoint.scalar '\x7d')
    if key = [] || key.length = rest.length then none else some (key, key.length + 1)
  | _ => none

/-- The text cut at its variables. -/
def variablePieces (t : Text) : List Piece := scan variableAt? 0 t

/-- The text cut at its placeholders. -/
def placeholderPieces (t : Text) : List Piece := scan placeholderAt? 0 t

end WorkspacePaths
