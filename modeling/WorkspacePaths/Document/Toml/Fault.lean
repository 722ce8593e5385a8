import WorkspacePaths.Document.Value
import WorkspacePaths.Text.Quoted

/-!
# `Document.Toml.Fault` — what may be wrong with a TOML document

Every fault has a place, which messages give as line and column, or as the end of the document.

## Contents
- `Defect`, with `Defect.message`.
- `Fault`, with `Fault.message` and `place`, which names a place.
-/

namespace WorkspacePaths.Toml

/-- The names on the way to a table or value. -/
abbrev Key := List Text

/-- What may be wrong at a place in a document. -/
inductive Defect where
  | invalidStatement
  | newlineExpected
  | equalsExpected
  | keyExpected
  | valueExpected
  | invalidDate
  | arrayNotClosed
  | inlineTableNotClosed
  | tableHeaderNotClosed
  | arrayHeaderNotClosed
  | textNotClosed
  /-- The quotes that close a literal text are missing. -/
  | quotesExpected (quotes : Text)
  /-- A control character in a text with escapes. -/
  | illegalCharacter (c : CodePoint)
  /-- A control character in a literal text or a comment. -/
  | invalidCharacter (c : CodePoint)
  | badEscape
  | badHexadecimal
  | surrogateEscape
  | overwritten
  | repeatedInlineKey (name : Text)
  | declaredTwice (key : Key)
  | redefined (key : Key)
  | immutable (key : Key)
deriving DecidableEq

/-- Why a document cannot be read. -/
inductive Fault where
  /-- It is malformed at a place. -/
  | malformed (defect : Defect) (position : Nat)
  /-- It holds an integer of too many digits. -/
  | integerTooLong (digits : Nat)
  /-- An array or inline table lies inside too many others. -/
  | tooDeep
deriving DecidableEq

/-- What is wrong at a place, in words. -/
def Defect.message : Defect → Text
  | invalidStatement => "Invalid statement"
  | newlineExpected => "Expected newline or end of document after a statement"
  | equalsExpected => "Expected '=' after a key in a key/value pair"
  | keyExpected => "Invalid initial character for a key part"
  | valueExpected => "Invalid value"
  | invalidDate => "Invalid date or datetime"
  | arrayNotClosed => "Unclosed array"
  | inlineTableNotClosed => "Unclosed inline table"
  | tableHeaderNotClosed => "Expected ']' at the end of a table declaration"
  | arrayHeaderNotClosed => "Expected ']]' at the end of an array declaration"
  | textNotClosed => "Unterminated string"
  | quotesExpected quotes => ("Expected " : Text) ++ quotes.quoted
  | illegalCharacter c => ("Illegal character " : Text) ++ Text.quoted [c]
  | invalidCharacter c => ("Found invalid character " : Text) ++ Text.quoted [c]
  | badEscape => "Unescaped '\\' in a string"
  | badHexadecimal => "Invalid hex value"
  | surrogateEscape => "Escaped character is not a Unicode scalar value"
  | overwritten => "Cannot overwrite a value"
  | repeatedInlineKey name => ("Duplicate inline table key " : Text) ++ name.quoted
  | declaredTwice key => ("Cannot declare " : Text) ++ Text.quotedList key ++ (" twice" : Text)
  | redefined key => ("Cannot redefine namespace " : Text) ++ Text.quotedList key
  | immutable key => ("Cannot mutate immutable namespace " : Text) ++ Text.quotedList key

/-- A place in a document: its line and column, or the end. -/
def place (source : Text) (position : Nat) : Text :=
  if position ≥ source.length then "end of document"
  else
    let newline := CodePoint.scalar '\n'
    let lead := source.take position
    let column := (lead.reverse.takeWhile (fun c => c ≠ newline)).length + 1
    ("line " : Text) ++ Text.ofNat (lead.count newline + 1)
      ++ (", column " : Text) ++ Text.ofNat column

/-- The message for a fault in a document. -/
def Fault.message (source : Text) : Fault → Text
  | malformed defect position =>
    ("TOMLDecodeError: " : Text) ++ defect.message ++ (" (at " : Text) ++ place source position
      ++ (")" : Text)
  | integerTooLong digits => integerMessage digits
  | tooDeep => "RecursionError: maximum recursion depth exceeded"

end WorkspacePaths.Toml
