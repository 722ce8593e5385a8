import WorkspacePaths.Document.Json.Token

/-!
# `Document.Json.Printer` — named lists of texts as JSON

The one kind of document that is written is an object whose members are arrays of texts. It is laid
out over several lines, each level indented by two spaces, and an empty array is written on one
line. Texts are written as they are, but for quotes, backslashes and control characters.

## Contents
- `quote`: a text as JSON.
- `printLists`: an object of arrays of texts as JSON.
-/

namespace WorkspacePaths.Json

/-- A code point inside a quoted text. -/
def quoteCodePoint (c : CodePoint) : Text :=
  match c with
  | .scalar '"' => "\\\""
  | .scalar '\\' => "\\\\"
  | .scalar '\x08' => "\\b"
  | .scalar '\x0c' => "\\f"
  | .scalar '\n' => "\\n"
  | .scalar '\r' => "\\r"
  | .scalar '\t' => "\\t"
  | _ => if c.value < 0x20 then ("\\u" : Text) ++ Text.lowerHex 4 c.value else [c]

/-- A text between quotes. -/
def quote (t : Text) : Text := ("\"" : Text) ++ t.flatMap quoteCodePoint ++ ("\"" : Text)

/-- Lines, each behind `indent`, between two brackets that stand on lines of their own. -/
def block (opening closing indent : Text) (outer : Text) (lines : List Text) : Text :=
  opening ++ ("\n" : Text) ++ Text.joinWith ",\n" (lines.map (fun line => indent ++ line))
    ++ ("\n" : Text) ++ outer ++ closing

/-- An array of texts, as the value of a member. -/
def printTexts (ts : List Text) : Text :=
  if ts = [] then "[]" else block "[" "]" "    " "  " (ts.map quote)

/-- A member whose value is an array of texts. -/
def printMember (m : Text × List Text) : Text :=
  quote m.1 ++ (": " : Text) ++ printTexts m.2

/-- An object whose members are arrays of texts; it has at least one. -/
def printLists (members : List (Text × List Text)) : Text :=
  block "\x7b" "\x7d" "  " [] (members.map printMember)

/-! ## Examples -/

example : quote "a\"\\\x01é" = ("\"a\\\"\\\\\\u0001é\"" : Text) := by decide

example : printTexts [] = ("[]" : Text) := by decide

example : printTexts ["a", "b"] = ("[\n    \"a\",\n    \"b\"\n  ]" : Text) := by decide

end WorkspacePaths.Json
