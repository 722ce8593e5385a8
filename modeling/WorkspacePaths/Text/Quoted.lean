import WorkspacePaths.Text.Basic
import WorkspacePaths.Text.Printable

/-!
# `Text.Quoted` — texts in messages

Messages show a text between quotes, on one line and in printable characters: the quote, the
backslash and the three common control characters have short escapes, any other unprintable code
point is written by its number.

## Contents
- `quoteMark`: the single quote, unless the text holds one and no double quote.
- `quoted`: the text between quote marks.
- `quotedList`: several texts in parentheses.
-/

namespace WorkspacePaths.Text

/-- The quote mark around a text: a single quote, unless the text holds one and no double quote. -/
def quoteMark (t : Text) : CodePoint :=
  if t.contains (CodePoint.scalar '\'') && !t.contains (CodePoint.scalar '"') then '"' else '\''

/-- A code point between the given quote marks. -/
def escapeFor (mark c : CodePoint) : Text :=
  if c = mark || c = CodePoint.scalar '\\' then [CodePoint.scalar '\\', c]
  else if c = CodePoint.scalar '\n' then "\\n"
  else if c = CodePoint.scalar '\r' then "\\r"
  else if c = CodePoint.scalar '\t' then "\\t"
  else if c.isPrintable then [c]
  else if c.value < 0x100 then ("\\x" : Text) ++ lowerHex 2 c.value
  else if c.value < 0x10000 then ("\\u" : Text) ++ lowerHex 4 c.value
  else ("\\U" : Text) ++ lowerHex 8 c.value

/-- The text between quote marks, in printable characters. -/
def quoted (t : Text) : Text :=
  let mark := t.quoteMark
  mark :: t.flatMap (escapeFor mark) ++ [mark]

/-- Several texts, quoted, between parentheses; a single one is followed by a comma. -/
def quotedList (ts : List Text) : Text :=
  match ts with
  | [t] => ("(" : Text) ++ t.quoted ++ (",)" : Text)
  | _ => ("(" : Text) ++ joinWith ", " (ts.map quoted) ++ (")" : Text)

/-! ## Examples -/

example : quoted "a\tb" = ("'a\\tb'" : Text) := by decide

example : quoted "it's" = ("\"it's\"" : Text) := by decide

example : quoted "'\"'" = ("'\\'\"\\''" : Text) := by decide

example : quoted [.surrogate 0] = ("'\\ud800'" : Text) := by decide +kernel

end WorkspacePaths.Text
