import WorkspacePaths.Document.Value

/-!
# `Command.Numeral` — words of a command line that are numbers

A word that begins with a hyphen is an option unless it is a negative number, and numbers are meant
broadly. There are decimal fractions with an exponent, infinities, what is no number, and complex
numbers whose imaginary part is marked by a `j`; whole numbers to base 2, 8 or 16; and ranges, which
are two or three whole numbers parted by colons. Low lines may stand between digits, digits of any
script count, and space may follow. The mark of the imaginary part alone is a letter, not a number.

## Contents
- **Characters.** `decimalZeros`, `blanks`, and `plain`, which writes a text with ASCII digits and
  spaces.
- **Complex numbers.** `digitsLength`, `mantissaLength`, `realLength`, and `isComplex`.
- **Whole numbers.** `isDigits`, `isBased`, `isInteger`.
- **Ranges.** `isRange`.
- **The test.** `isNumeral`.
-/

namespace WorkspacePaths.Command

/-! ## Characters -/

/-- The zeros of the decimal digits of Unicode 14; the nine digits that follow a zero are its
script's others. -/
def decimalZeros : List Nat := [
  0x0030, 0x0660, 0x06F0, 0x07C0, 0x0966, 0x09E6, 0x0A66, 0x0AE6, 0x0B66, 0x0BE6, 0x0C66, 0x0CE6,
  0x0D66, 0x0DE6, 0x0E50, 0x0ED0, 0x0F20, 0x1040, 0x1090, 0x17E0, 0x1810, 0x1946, 0x19D0, 0x1A80,
  0x1A90, 0x1B50, 0x1BB0, 0x1C40, 0x1C50, 0xA620, 0xA8D0, 0xA900, 0xA9D0, 0xA9F0, 0xAA50, 0xABF0,
  0xFF10, 0x104A0, 0x10D30, 0x11066, 0x110F0, 0x11136, 0x111D0, 0x112F0, 0x11450, 0x114D0, 0x11650,
  0x116C0, 0x11730, 0x118E0, 0x11950, 0x11C50, 0x11D50, 0x11DA0, 0x16A60, 0x16AC0, 0x16B50, 0x1D7CE,
  0x1D7D8, 0x1D7E2, 0x1D7EC, 0x1D7F6, 0x1E140, 0x1E2F0, 0x1E950, 0x1FBF0]

/-- The characters that count as space around a number. -/
def blanks : List Nat := [
  0x09, 0x0A, 0x0B, 0x0C, 0x0D, 0x20, 0x85, 0xA0, 0x1680, 0x2000, 0x2001, 0x2002, 0x2003, 0x2004,
  0x2005, 0x2006, 0x2007, 0x2008, 0x2009, 0x200A, 0x2028, 0x2029, 0x202F, 0x205F, 0x3000]

/-- The control characters that part files, groups, records and units. They count as space around
the numbers of a range only. -/
def separators : List Nat := [0x1C, 0x1D, 0x1E, 0x1F]

/-- A decimal digit of any script as an ASCII digit, space as a space, all else as it is. -/
def plainCodePoint (c : CodePoint) : CodePoint :=
  let n := c.value
  match decimalZeros.find? (fun z => z ≤ n && n ≤ z + 9) with
  | some z => (CodePoint.ofNat? (0x30 + (n - z))).getD c
  | none => if blanks.contains n then CodePoint.scalar ' ' else c

/-- A text with ASCII digits and spaces. -/
def plain (t : Text) : Text := t.map plainCodePoint

/-- The text without space at its end. -/
def trimEnd (t : Text) : Text := (t.reverse.dropWhile (fun c => c = CodePoint.scalar ' ')).reverse

/-! ## Complex numbers -/

/-- Drops low lines that stand between digits. There is no result if one stands elsewhere;
`afterDigit` says that a digit stands before. -/
def dropLowLines (afterDigit : Bool) : Text → Option Text
  | [] => some []
  | c :: rest =>
    if c = CodePoint.scalar '_' then
      if afterDigit && (rest.head?.map CodePoint.isDigit).getD false then dropLowLines false rest
      else none
    else (dropLowLines c.isDigit rest).map (c :: ·)

/-- How many digits a text begins with. -/
def digitsLength (t : Text) : Nat := (t.takeWhile CodePoint.isDigit).length

/-- How long a sign is that a text begins with. -/
def signLength (t : Text) : Nat := if t.startsWith "+" || t.startsWith "-" then 1 else 0

/-- How long the digits are that a text begins with, a decimal point among them counted; there must
be one digit at least. -/
def mantissaLength (t : Text) : Nat :=
  let whole := digitsLength t
  match t.drop whole with
  | .scalar '.' :: rest =>
    if whole + digitsLength rest = 0 then 0 else whole + 1 + digitsLength rest
  | _ => whole

/-- How long the exponent is that a text begins with, 0 if there is none. -/
def exponentLength (t : Text) : Nat :=
  if t.startsWith "e" || t.startsWith "E" then
    let sign := signLength (t.drop 1)
    let digits := digitsLength (t.drop (1 + sign))
    if digits = 0 then 0 else 1 + sign + digits
  else 0

/-- An ASCII letter in lower case; all else as it is. -/
def lowerLetter (c : CodePoint) : CodePoint :=
  match c with
  | .scalar x => CodePoint.scalar x.toLower
  | .surrogate k => .surrogate k

/-- How long the word for an infinite number, or for none, is that a text begins with. -/
def wordLength (t : Text) : Nat :=
  let lower : Text := t.map lowerLetter
  if lower.startsWith "infinity" then 8
  else if lower.startsWith "inf" || lower.startsWith "nan" then 3
  else 0

/-- How long the real number is that a text begins with, its sign counted, 0 if there is none. -/
def realLength (t : Text) : Nat :=
  let sign := signLength t
  let word := wordLength (t.drop sign)
  let mantissa := mantissaLength (t.drop sign)
  if word > 0 then sign + word
  else if mantissa > 0 then sign + mantissa + exponentLength (t.drop (sign + mantissa))
  else 0

/-- Nothing is left but space. -/
def onlySpace (t : Text) : Bool := t.all (fun c => c = CodePoint.scalar ' ')

/-- The mark of an imaginary part, then nothing but space. -/
def endsImaginary (t : Text) : Bool :=
  (t.startsWith "j" || t.startsWith "J") && onlySpace (t.drop 1)

/-- What follows a real part: nothing, the mark that makes it imaginary, or a signed imaginary part,
whose number may be missing. -/
def endsNumeral (t : Text) : Bool :=
  onlySpace t || endsImaginary t
    || (signLength t = 1 && endsImaginary (t.drop (max 1 (realLength t))))

/-- The text, which is written with ASCII digits and spaces, is a complex number. -/
def isComplex (t : Text) : Bool :=
  match dropLowLines false t with
  | none => false
  | some t =>
    let real := realLength t
    if real > 0 then endsNumeral (t.drop real) else endsImaginary (t.drop (signLength t))

/-! ## Whole numbers -/

/-- The text is made up of digits, one at least, with single low lines between them. -/
def isDigits (digit : CodePoint → Bool) : Text → Bool
  | [] => false
  | [c] => digit c
  | c :: d :: rest =>
    digit c &&
      (if d = CodePoint.scalar '_' then isDigits digit rest else isDigits digit (d :: rest))

/-- The base that a letter behind a zero names. -/
def baseOf? (letter : CodePoint) : Option Nat :=
  match lowerLetter letter with
  | .scalar 'b' => some 2
  | .scalar 'o' => some 8
  | .scalar 'x' => some 16
  | _ => none

/-- The digits are of the base; a low line may stand before them. -/
def isDigitsOf (base : Nat) (digits : Text) : Bool :=
  isDigits (fun c => c.hexDigit?.any (fun d => d < base))
    (if digits.startsWith "_" then digits.drop 1 else digits)

/-- The text is a whole number whose base is named by a letter behind a zero. -/
def isBased (t : Text) : Bool :=
  match trimEnd (t.drop (signLength t)) with
  | .scalar '0' :: letter :: digits => (baseOf? letter).any (fun base => isDigitsOf base digits)
  | _ => false

/-- The text is a decimal whole number of no more digits than an integer may have. -/
def isInteger (t : Text) : Bool :=
  let digits := t.drop (signLength t)
  isDigits CodePoint.isDigit digits && (digits.countP CodePoint.isDigit) ≤ integerDigitLimit

/-! ## Ranges -/

/-- Space, or a control character that separates. -/
def isGap (c : CodePoint) : Bool := blanks.contains c.value || separators.contains c.value

/-- The text without gaps at either end. -/
def trimGaps (t : Text) : Text := ((t.dropWhile isGap).reverse.dropWhile isGap).reverse

/-- A part of a range is a whole number, or is left out. -/
def isBound (part : Text) : Bool :=
  let part := trimGaps part
  part.isEmpty || isInteger (plain part)

/-- The word is two or three parts, parted by colons: a start, an end, and a step. -/
def isRange (word : Text) : Bool :=
  let parts := word.splitOn ":"
  (parts.length = 2 || parts.length = 3) && parts.all isBound

/-! ## The test -/

/-- The word is the mark of an imaginary part behind a hyphen. -/
def isMarkAlone (word : Text) : Bool := word = ("-j" : Text) || word = ("-J" : Text)

/-- The word is a number or a range. -/
def isNumeral (word : Text) : Bool :=
  !isMarkAlone word && (isComplex (plain word) || isBased (plain word) || isRange word)

/-! ## Examples -/

example : isNumeral "-1_0.5e3" = true := by decide

example : isNumeral "-inf-j" = true := by decide

example : isNumeral "-0x_f" = true := by decide

example : isNumeral "-1: :+2" = true := by decide

example : isNumeral "-1e" = false := by decide

example : isNumeral "-j" = false := by decide

example : isNumeral "-x" = false := by decide

end WorkspacePaths.Command
