import WorkspacePaths.Document.Value

/-!
# `Document.Json.Token` — the tokens of a JSON document

A document is cut into tokens with their positions before it is read. A text or number that cannot
be read becomes a token too, as it is an error only where a value may stand: before that, the reader
may find fault with where the token stands. Nothing behind such a token is looked at.

Besides the numbers of the standard, `NaN`, `Infinity` and `-Infinity` are read. Escapes may name
half of a surrogate pair; two that follow one another and make up a pair are one code point.

## Contents
- **Faults.** `Defect`, what may be wrong at a place, and `Fault`.
- **Texts and numbers.** `escape`, `readText`, `number?`.
- **Tokens.** `Token`, `tokenAt`, `tokens`.
-/

namespace WorkspacePaths.Json

/-! ## Faults -/

/-- What may be wrong at a place in a document. -/
inductive Defect where
  | valueExpected
  | keyExpected
  | colonExpected
  | commaExpected
  | extraData
  | unterminatedText
  | controlCharacter
  | badEscape
  | badUnicodeEscape
  | byteOrderMark
deriving DecidableEq

/-- The two kinds of container. -/
inductive Container where
  | array
  | object
deriving DecidableEq

/-- Why a document cannot be read. -/
inductive Fault where
  /-- It is malformed at a place. -/
  | malformed (defect : Defect) (position : Nat)
  /-- It holds an integer of too many digits. -/
  | integerTooLong (digits : Nat)
  /-- A container lies inside too many others. -/
  | tooDeep (container : Container)
deriving DecidableEq

/-! ## Texts -/

/-- The number that four hexadecimal digits make up. -/
def hex4? (a b c d : CodePoint) : Option Nat := do
  return (← a.hexDigit?) * 0x1000 + (← b.hexDigit?) * 0x100 + (← c.hexDigit?) * 0x10
    + (← d.hexDigit?)

/-- The code point with a number below U+10000. -/
def codeUnit (n : Nat) : CodePoint := (CodePoint.ofNat? n).getD default

/-- The code point of a surrogate pair. -/
def pair (high low : Nat) : CodePoint :=
  codeUnit (0x10000 + (high - 0xD800) * 0x400 + (low - 0xDC00))

/-- The code point that a short escape stands for. -/
def shortEscape? (c : CodePoint) : Option CodePoint :=
  match c with
  | .scalar '"' => some (.scalar '"')
  | .scalar '\\' => some (.scalar '\\')
  | .scalar '/' => some (.scalar '/')
  | .scalar 'b' => some (.scalar '\x08')
  | .scalar 'f' => some (.scalar '\x0c')
  | .scalar 'n' => some (.scalar '\n')
  | .scalar 'r' => some (.scalar '\r')
  | .scalar 't' => some (.scalar '\t')
  | _ => none

/-- The number of the second half of a surrogate pair, which is written as an escape of its own; it
follows a first half whose backslash stands at `pos`. There is none if no such escape follows. -/
def lowHalf (pos : Nat) : Text → Except Fault (Option Nat)
  | .scalar '\\' :: .scalar 'u' :: a :: b :: d :: e :: _ :: _ =>
    match hex4? a b d e with
    | none => .error (.malformed .badUnicodeEscape (pos + 7))
    | some m => .ok (if 0xDC00 ≤ m && m ≤ 0xDFFF then some m else none)
  | _ => .ok none

/-- The code point of an escape by number, and how many code points the escape takes after its
backslash, which stands at `pos`. Two escapes that make up a surrogate pair are one code point. -/
def numberEscape (pos : Nat) : Text → Except Fault (CodePoint × Nat)
  | a :: b :: d :: e :: next :: more =>
    match hex4? a b d e with
    | none => .error (.malformed .badUnicodeEscape (pos + 1))
    | some n =>
      if 0xD800 ≤ n && n ≤ 0xDBFF then
        (lowHalf pos (next :: more)).map fun
          | some m => (pair n m, 11)
          | none => (codeUnit n, 5)
      else .ok (codeUnit n, 5)
  | _ => .error (.malformed .badUnicodeEscape (pos + 1))

/-- The code point of an escape, and how many code points the escape takes after its backslash,
which stands at `pos` in the text that begins at `start`. -/
def escape (start pos : Nat) : Text → Except Fault (CodePoint × Nat)
  | [] => .error (.malformed .unterminatedText start)
  | .scalar 'u' :: rest => numberEscape pos rest
  | e :: _ =>
    match shortEscape? e with
    | none => .error (.malformed .badEscape pos)
    | some x => .ok (x, 1)

/-- Puts a code point before what was read. -/
def before (c : CodePoint) (read : Except Fault (Text × Nat)) : Except Fault (Text × Nat) :=
  read.map (fun r => (c :: r.1, r.2))

/-- Reads a text behind its opening quote, which stands at `start`: the text, and the position
behind its closing quote. Passes over `skip` code points first. -/
def readTextFrom (start : Nat) : Nat → Nat → Text → Except Fault (Text × Nat)
  | _, _, [] => .error (.malformed .unterminatedText start)
  | skip + 1, pos, _ :: rest => readTextFrom start skip (pos + 1) rest
  | 0, pos, c :: rest =>
    if c = CodePoint.scalar '"' then .ok ([], pos + 1)
    else if c = CodePoint.scalar '\\' then
      match escape start pos rest with
      | .error fault => .error fault
      | .ok (x, length) => before x (readTextFrom start length (pos + 1) rest)
    else if c.value ≤ 0x1F then .error (.malformed .controlCharacter pos)
    else before c (readTextFrom start 0 (pos + 1) rest)

/-- Reads a text whose opening quote stands at `start`, before `rest`. -/
def readText (start : Nat) (rest : Text) : Except Fault (Text × Nat) :=
  readTextFrom start 0 (start + 1) rest

/-! ## Numbers -/

/-- How many decimal digits a text begins with. -/
def digitRun (t : Text) : Nat := (t.takeWhile CodePoint.isDigit).length

/-- How long the whole part of a number is that a text begins with, its sign counted: a zero, or
digits that do not begin with one. -/
def wholeLength? (t : Text) : Option Nat :=
  let sign := if t.startsWith "-" then 1 else 0
  match t.drop sign with
  | .scalar '0' :: _ => some (sign + 1)
  | digits => if digitRun digits = 0 then none else some (sign + digitRun digits)

/-- How long the fraction is that a text begins with: a point and at least one digit. -/
def fractionLength (t : Text) : Nat :=
  match t with
  | .scalar '.' :: rest => if digitRun rest = 0 then 0 else 1 + digitRun rest
  | _ => 0

/-- How long the exponent is that a text begins with: a letter, perhaps a sign, and at least one
digit. -/
def exponentLength (t : Text) : Nat :=
  match t with
  | e :: rest =>
    if e = CodePoint.scalar 'e' || e = CodePoint.scalar 'E' then
      let sign := if Text.startsWith rest "+" || Text.startsWith rest "-" then 1 else 0
      let digits := digitRun (rest.drop sign)
      if digits = 0 then 0 else 1 + sign + digits
    else 0
  | [] => 0

/-- The natural number that decimal digits make up. -/
def natOfDigits (digits : Text) : Nat :=
  digits.foldl (fun n c => 10 * n + c.digit?.getD 0) 0

/-! ## Tokens -/

/-- A token of a document. -/
inductive Token where
  | openBrace
  | closeBrace
  | openBracket
  | closeBracket
  | colon
  | comma
  /-- A value that is one token, but no text. -/
  | atom (value : Value)
  | text (t : Text)
  /-- A number that cannot be read. -/
  | badNumber (fault : Fault)
  /-- A text that cannot be read. -/
  | badText (fault : Fault)
  /-- A code point with which no token begins. -/
  | stray

/-- Space between tokens. -/
def isBlank (c : CodePoint) : Bool :=
  c = CodePoint.scalar ' ' || c = CodePoint.scalar '\t' || c = CodePoint.scalar '\n'
    || c = CodePoint.scalar '\r'

/-- The tokens that are a word. -/
def words : List (Text × Value) :=
  [("null", .null), ("true", .bool true), ("false", .bool false), ("NaN", .float),
    ("Infinity", .float), ("-Infinity", .float)]

/-- The number that a text begins with, and its length. -/
def number? (t : Text) : Option (Token × Nat) := do
  let whole ← wholeLength? t
  let fraction := fractionLength (t.drop whole)
  let exponent := exponentLength (t.drop (whole + fraction))
  if fraction + exponent > 0 then return (.atom .float, whole + fraction + exponent)
  let digits := (t.take whole).filter CodePoint.isDigit
  if digits.length > integerDigitLimit then
    return (.badNumber (.integerTooLong digits.length), whole)
  let n : Int := natOfDigits digits
  return (.atom (.int (if t.startsWith "-" then -n else n)), whole)

/-- The token that a text begins with, which stands at `pos` and is no space, and its length. -/
def tokenAt (pos : Nat) (t : Text) : Token × Nat :=
  match t with
  | .scalar '\x7b' :: _ => (.openBrace, 1)
  | .scalar '\x7d' :: _ => (.closeBrace, 1)
  | .scalar '[' :: _ => (.openBracket, 1)
  | .scalar ']' :: _ => (.closeBracket, 1)
  | .scalar ':' :: _ => (.colon, 1)
  | .scalar ',' :: _ => (.comma, 1)
  | .scalar '"' :: rest =>
    match readText pos rest with
    | .ok (text, stop) => (.text text, stop - pos)
    | .error fault => (.badText fault, 1)
  | _ =>
    match words.find? (fun w => t.startsWith w.1) with
    | some (word, value) => (.atom value, word.length)
    | none => (number? t).getD (.stray, 1)

/-- Nothing behind the token is looked at. -/
def Token.isLast : Token → Bool
  | badNumber _ | badText _ | stray => true
  | _ => false

/-- The tokens of a text that begins at `pos`, with their positions, after passing over `skip` code
points. -/
def tokensFrom : Nat → Nat → Text → List (Nat × Token)
  | _, _, [] => []
  | skip + 1, pos, _ :: rest => tokensFrom skip (pos + 1) rest
  | 0, pos, c :: rest =>
    if isBlank c then tokensFrom 0 (pos + 1) rest
    else
      let (token, length) := tokenAt pos (c :: rest)
      (pos, token) :: if token.isLast then [] else tokensFrom (length - 1) (pos + 1) rest

/-- The tokens of a document, with their positions. -/
def tokens (source : Text) : List (Nat × Token) := tokensFrom 0 0 source

end WorkspacePaths.Json
