import WorkspacePaths.Document.Json.Token

/-!
# `Document.Json.Reader` — JSON documents become values

The tokens of a document are read one after another by a machine with a stack: a frame for each
container that is open, and what may come next. Of members with the same key the last one counts,
in the place of the first.

## Contents
- **The machine.** `Frame`, `Expectation`, `State`, `State.step`.
- **Documents.** `read`.
- **Messages.** `Fault.message` shows the line at fault, with a mark under the place.
-/

namespace WorkspacePaths.Json

/-! ## The machine -/

/-- A container that is still open. -/
inductive Frame where
  /-- An array, with the items read so far, last first. -/
  | array (items : List Value)
  /-- An object, with the members read so far, and the key of the next one once it is read. -/
  | object (members : Members) (key : Text)

/-- What may come next. -/
inductive Expectation where
  | value
  /-- A value, or the end of an array that has no items yet. -/
  | firstItem
  | key
  /-- A key, or the end of an object that has no members yet. -/
  | firstKey
  | colon
  /-- A comma, or the end of the container. -/
  | next
  /-- Nothing: the document is read. -/
  | nothing (document : Value)

/-- Where the reader stands. -/
structure State where
  stack : List Frame := []
  expected : Expectation := .value

/-- How many containers may lie inside one another. -/
def nestingLimit : Nat := 985

namespace State

/-- A value is complete. -/
def complete (stack : List Frame) (value : Value) : State :=
  match stack with
  | [] => ⟨[], .nothing value⟩
  | .array items :: outer => ⟨.array (value :: items) :: outer, .next⟩
  | .object members key :: outer => ⟨.object (members.put key value) key :: outer, .next⟩

/-- A container begins. -/
def enter (stack : List Frame) (container : Container) : Except Fault State :=
  if stack.length ≥ nestingLimit then .error (.tooDeep container)
  else
    match container with
    | .array => .ok ⟨.array [] :: stack, .firstItem⟩
    | .object => .ok ⟨.object [] [] :: stack, .firstKey⟩

/-- Reads a token where a value must stand. -/
def stepValue (stack : List Frame) (pos : Nat) : Token → Except Fault State
  | .openBrace => enter stack .object
  | .openBracket => enter stack .array
  | .atom value => .ok (complete stack value)
  | .text t => .ok (complete stack (.text t))
  | .badNumber fault | .badText fault => .error fault
  | _ => .error (.malformed .valueExpected pos)

/-- Reads a token where a key must stand. -/
def stepKey (stack : List Frame) (pos : Nat) : Token → Except Fault State
  | .text key =>
    match stack with
    | .object members _ :: outer => .ok ⟨.object members key :: outer, .colon⟩
    | _ => .error (.malformed .keyExpected pos)
  | .badText fault => .error fault
  | _ => .error (.malformed .keyExpected pos)

/-- Reads a token where a container may go on or end. -/
def stepNext (stack : List Frame) (pos : Nat) (token : Token) : Except Fault State :=
  match stack, token with
  | .array _ :: _, .comma => .ok ⟨stack, .value⟩
  | .object _ _ :: _, .comma => .ok ⟨stack, .key⟩
  | .array items :: outer, .closeBracket => .ok (complete outer (.array items.reverse))
  | .object members _ :: outer, .closeBrace => .ok (complete outer (.object members))
  | _, _ => .error (.malformed .commaExpected pos)

/-- Reads one token. -/
def step (s : State) (located : Nat × Token) : Except Fault State :=
  let (pos, token) := located
  match s.expected, token with
  | .value, _ => stepValue s.stack pos token
  | .firstItem, .closeBracket => stepNext s.stack pos token
  | .firstItem, _ => stepValue s.stack pos token
  | .key, _ => stepKey s.stack pos token
  | .firstKey, .closeBrace => stepNext s.stack pos token
  | .firstKey, _ => stepKey s.stack pos token
  | .colon, .colon => .ok ⟨s.stack, .value⟩
  | .colon, _ => .error (.malformed .colonExpected pos)
  | .next, _ => stepNext s.stack pos token
  | .nothing _, _ => .error (.malformed .extraData pos)

/-- The document, if the text may end here; `length` is where it ends. -/
def finish (s : State) (length : Nat) : Except Fault Value :=
  match s.expected with
  | .value | .firstItem => .error (.malformed .valueExpected length)
  | .key | .firstKey => .error (.malformed .keyExpected length)
  | .colon => .error (.malformed .colonExpected length)
  | .next => .error (.malformed .commaExpected length)
  | .nothing document => .ok document

end State

/-! ## Documents -/

/-- The value of a document. A byte order mark at its front is an error. -/
def read (source : Text) : Except Fault Value := do
  if source.head? = some (CodePoint.scalar '\uFEFF') then
    throw (.malformed .byteOrderMark 0)
  let s ← (tokens source).foldlM State.step {}
  s.finish source.length

/-! ## Messages -/

/-- What is wrong at a place, in words. -/
def Defect.message : Defect → Text
  | valueExpected => "Expecting value"
  | keyExpected => "Expecting property name enclosed in double quotes"
  | colonExpected => "Expecting ':' delimiter"
  | commaExpected => "Expecting ',' delimiter"
  | extraData => "Extra data"
  | unterminatedText => "Unterminated string starting at"
  | controlCharacter => "Invalid control character at"
  | badEscape => "Invalid \\escape"
  | badUnicodeEscape => "Invalid \\uXXXX escape"
  | byteOrderMark => "Unexpected UTF-8 BOM (decode using utf-8-sig)"

/-- The name of a container in messages. -/
def Container.name : Container → Text
  | array => "array"
  | object => "object"

/-- The part of a line around `column`, at most twenty code points to each side, and the width of
what stands before the mark under it. -/
def excerpt (line : Text) (column : Nat) : Text × Nat :=
  let start := column - 20
  let stop := column + 20
  let front : Text := if start = 0 then [] else "... "
  let back : Text := if stop ≥ line.length then [] else " ..."
  (front ++ (line.take stop).drop start ++ back, front.length + (column - start))

/-- The message for a place in a document: the line, a mark under the place, and what is wrong
there. -/
def placeMessage (source : Text) (defect : Defect) (position : Nat) : Text :=
  let newline := CodePoint.scalar '\n'
  let lead := source.take position
  let column := (lead.reverse.takeWhile (fun c => c ≠ newline)).length
  let line := (source.drop (position - column)).takeWhile (fun c => c ≠ newline)
  let (shown, width) := excerpt line column
  let indent : Text := "    "
  ("JSONDecodeError:\n" : Text) ++ indent ++ shown ++ ("\n" : Text) ++ indent
    ++ List.replicate width (CodePoint.scalar ' ') ++ ("^\n" : Text) ++ defect.message
    ++ (": line " : Text) ++ Text.ofNat (lead.count newline + 1)
    ++ (" column " : Text) ++ Text.ofNat (column + 1)
    ++ (" (char " : Text) ++ Text.ofNat position ++ (")" : Text)

/-- The message for a fault in a document. -/
def Fault.message (source : Text) : Fault → Text
  | malformed defect position => placeMessage source defect position
  | integerTooLong digits => integerMessage digits
  | tooDeep container =>
    ("RecursionError: maximum recursion depth exceeded while decoding a JSON " : Text)
      ++ container.name ++ (" from a unicode string" : Text)

end WorkspacePaths.Json
