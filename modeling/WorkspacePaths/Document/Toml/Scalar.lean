import WorkspacePaths.Document.Toml.Cursor
import WorkspacePaths.Document.Value

/-!
# `Document.Toml.Scalar` — texts, numbers, dates and times in TOML

Texts have four forms: with escapes or literal, on one line or over several. Numbers may have low
lines between digits. Dates and times must exist in the calendar.

## Contents
- **Texts.** `basicText`, `literalText`, `linesText`.
- **Numbers.** `basedLength?`, `wholeLength?`, `number?`.
- **Dates and times.** `timeLength`, `dateTime?`.
-/

namespace WorkspacePaths.Toml

open Reader

/-! ## Texts -/

/-- The code point that a short escape stands for. -/
def shortEscape? (c : CodePoint) : Option CodePoint :=
  match c with
  | .scalar 'b' => some (.scalar '\x08')
  | .scalar 't' => some (.scalar '\t')
  | .scalar 'n' => some (.scalar '\n')
  | .scalar 'f' => some (.scalar '\x0c')
  | .scalar 'r' => some (.scalar '\r')
  | .scalar '"' => some (.scalar '"')
  | .scalar '\\' => some (.scalar '\\')
  | _ => none

/-- Reads a code point that is given by `width` hexadecimal digits. -/
def hexEscape (width : Nat) : Reader Text := do
  let digits := (← get).rest.take width
  match digits.mapM CodePoint.hexDigit? with
  | none => fail .badHexadecimal
  | some values =>
    if values.length ≠ width then fail .badHexadecimal
    skip width
    match CodePoint.ofNat? (values.foldl (fun n d => 0x10 * n + d) 0) with
    | some (.scalar c) => return [.scalar c]
    | _ => fail .surrogateEscape

/-- Reads a line end that is escaped, with the space around it; `atNewline` says that the line end
stands right behind the backslash. -/
def lineContinuation (atNewline : Bool) : Reader Text := do
  skip 2
  if !atNewline then
    skipBlanks
    match ← peek with
    | none => return []
    | some c =>
      if c ≠ CodePoint.scalar '\n' then fail .badEscape
      skip 1
  skipWhile isBlankOrNewline
  return []

/-- Reads an escape, whose backslash stands behind the cursor. -/
def escape (overLines : Bool) : Reader Text := do
  match ((← get).rest.drop 1).head? with
  | none => fail .badEscape 2
  | some c =>
    if overLines && isBlankOrNewline c then lineContinuation (c = CodePoint.scalar '\n')
    else if c = CodePoint.scalar 'u' then do skip 2; hexEscape 4
    else if c = CodePoint.scalar 'U' then do skip 2; hexEscape 8
    else
      match shortEscape? c with
      | none => fail .badEscape 2
      | some x =>
        skip 2
        return [x]

/-- Reads a text with escapes up to its closing quotes and goes on behind them. -/
def basicText (overLines : Bool) : Reader Text := do loop [] (← get).rest.length
where
  /-- Reads on behind `taken`; each round takes a code point, so `fuel` is enough. -/
  loop (taken : Text) : Nat → Reader Text
    | 0 => fail .textNotClosed
    | fuel + 1 => do
      let refused := if overLines then isControlInLines else isControl
      match ← peek with
      | none => fail .textNotClosed
      | some c =>
        if c = CodePoint.scalar '"' then
          let quotes : Text := if overLines then "\"\"\"" else "\""
          if ← lookingAt quotes then
            skip quotes.length
            return taken
          skip 1
          loop (taken ++ [c]) fuel
        else if c = CodePoint.scalar '\\' then
          let part ← escape overLines
          loop (taken ++ part) fuel
        else if refused c then fail (.illegalCharacter c)
        else
          skip 1
          loop (taken ++ [c]) fuel

/-- Reads a literal text, whose opening quote stands behind the cursor. -/
def literalText : Reader Text := do
  skip 1
  let taken ← takeUntil "'" isControl true
  skip 1
  return taken

/-- Reads a text over several lines, whose three opening quotes stand behind the cursor. A line end
right behind them does not count, and up to two quotes before the closing ones do. -/
def linesText (mark : CodePoint) (literal : Bool) : Reader Text := do
  skip 3
  if ← lookingAt "\n" then skip 1
  let taken ←
    if literal then do
      let taken ← takeUntil "'''" isControlInLines true
      skip 3
      pure taken
    else basicText true
  if !(← lookingAt [mark]) then return taken
  skip 1
  if !(← lookingAt [mark]) then return taken ++ [mark]
  skip 1
  return taken ++ [mark, mark]

/-! ## Numbers -/

/-- How many code points belong to a run of digits that goes on here, low lines between digits
counted. -/
def digitTail (digit : CodePoint → Bool) : Text → Nat
  | [] => 0
  | c :: rest =>
    if digit c then 1 + digitTail digit rest
    else
      match c, rest with
      | .scalar '_', d :: more => if digit d then 2 + digitTail digit more else 0
      | _, _ => 0

/-- How many code points belong to a run of digits that begins here. -/
def digitRun (digit : CodePoint → Bool) (t : Text) : Nat :=
  match t with
  | c :: rest => if digit c then 1 + digitTail digit rest else 0
  | [] => 0

/-- A digit below `base`. -/
def isDigitBelow (base : Nat) (c : CodePoint) : Bool := c.hexDigit?.any (fun d => d < base)

/-- How long the integer is that a text begins with and that names its base. -/
def basedLength? (t : Text) : Option Nat :=
  match t with
  | .scalar '0' :: mark :: rest =>
    let base : Nat :=
      if mark = CodePoint.scalar 'x' then 16
      else if mark = CodePoint.scalar 'b' then 2
      else if mark = CodePoint.scalar 'o' then 8
      else 0
    let run := digitRun (isDigitBelow base) rest
    if run = 0 then none else some (2 + run)
  | _ => none

/-- How long a sign is that a text begins with. -/
def signLength (t : Text) : Nat := if t.startsWith "+" || t.startsWith "-" then 1 else 0

/-- How long the whole part of a decimal number is that a text begins with, its sign counted. -/
def wholeLength? (t : Text) : Option Nat :=
  let sign := signLength t
  match t.drop sign with
  | .scalar '0' :: _ => some (sign + 1)
  | digits =>
    let run := digitRun CodePoint.isDigit digits
    if run = 0 then none else some (sign + run)

/-- How long the fraction is that a text begins with. -/
def fractionLength (t : Text) : Nat :=
  match t with
  | .scalar '.' :: rest =>
    let run := digitRun CodePoint.isDigit rest
    if run = 0 then 0 else 1 + run
  | _ => 0

/-- How long the exponent is that a text begins with. -/
def exponentLength (t : Text) : Nat :=
  match t with
  | e :: rest =>
    if e = CodePoint.scalar 'e' || e = CodePoint.scalar 'E' then
      let run := digitRun CodePoint.isDigit (rest.drop (signLength rest))
      if run = 0 then 0 else 1 + signLength rest + run
    else 0
  | [] => 0

/-- The number that digits in a base make up; other code points count for nothing. -/
def natOfDigits (base : Nat) (t : Text) : Nat :=
  (t.filterMap CodePoint.hexDigit?).foldl (fun n d => base * n + d) 0

/-- The base that the second code point of an integer names. -/
def baseOf (t : Text) : Nat :=
  match t with
  | _ :: .scalar 'x' :: _ => 16
  | _ :: .scalar 'b' :: _ => 2
  | _ => 8

/-- The number that a text begins with, and its length; a fault if it is an integer of too many
digits. -/
def number? (t : Text) : Option (Except Fault Value × Nat) :=
  match basedLength? t with
  | some length =>
    some (.ok (.int (natOfDigits (baseOf t) ((t.take length).drop 2))), length)
  | none =>
    (wholeLength? t).map fun whole =>
      let fraction := fractionLength (t.drop whole)
      let exponent := exponentLength (t.drop (whole + fraction))
      if fraction + exponent > 0 then (.ok .float, whole + fraction + exponent)
      else
        let digits := (t.take whole).filter CodePoint.isDigit
        if digits.length > integerDigitLimit then (.error (.integerTooLong digits.length), whole)
        else
          let n : Int := natOfDigits 10 digits
          (.ok (.int (if t.startsWith "-" then -n else n)), whole)

/-! ## Dates and times -/

/-- The number that the decimal digits from `start` to before `stop` make up, if all of these are
digits. -/
def field? (t : Text) (start stop : Nat) : Option Nat := do
  let digits := (t.take stop).drop start
  if digits.length ≠ stop - start then none
  let values ← digits.mapM CodePoint.digit?
  return values.foldl (fun n d => 10 * n + d) 0

/-- The code point at a place is the given one. -/
def markAt (t : Text) (place : Nat) (mark : Char) : Bool := t[place]? = some (CodePoint.scalar mark)

/-- How long the hour and minute are that a text begins with: `23:59`. -/
def hourMinuteLength (t : Text) : Nat :=
  match field? t 0 2, field? t 3 5 with
  | some hour, some minute => if markAt t 2 ':' && hour ≤ 23 && minute ≤ 59 then 5 else 0
  | _, _ => 0

/-- How long the time of day is that a text begins with, 0 if there is none. -/
def timeLength (t : Text) : Nat :=
  match field? t 6 8 with
  | some second =>
    if hourMinuteLength t = 5 && markAt t 5 ':' && second ≤ 59 then
      let digits := ((t.drop 9).takeWhile CodePoint.isDigit).length
      if markAt t 8 '.' && digits > 0 then 9 + digits else 8
    else 0
  | none => 0

/-- How long the offset from universal time is that a text begins with, 0 if there is none. -/
def offsetLength (t : Text) : Nat :=
  if t.startsWith "Z" || t.startsWith "z" then 1
  else if signLength t = 1 && hourMinuteLength (t.drop 1) = 5 then 6
  else 0

/-- The days of a month. -/
def daysIn (year month : Nat) : Nat :=
  let leap := year % 4 = 0 && (year % 100 ≠ 0 || year % 400 = 0)
  if month = 2 then (if leap then 29 else 28)
  else if month = 4 || month = 6 || month = 9 || month = 11 then 30
  else 31

/-- The date, with or without a time of day, that a text begins with, and its length; no value if
there is no such day. -/
def dateTime? (t : Text) : Option (Option Value × Nat) := do
  let year ← field? t 0 4
  let month ← field? t 5 7
  let day ← field? t 8 10
  if !(markAt t 4 '-' && markAt t 7 '-' && 1 ≤ month && month ≤ 12 && 1 ≤ day && day ≤ 31) then none
  let real := 1 ≤ year && day ≤ daysIn year month
  let separated := markAt t 10 'T' || markAt t 10 't' || markAt t 10 ' '
  let clock := if separated then timeLength (t.drop 11) else 0
  if clock = 0 then return (if real then some .date else none, 10)
  let length := 11 + clock
  return (if real then some .dateTime else none, length + offsetLength (t.drop length))

end WorkspacePaths.Toml
