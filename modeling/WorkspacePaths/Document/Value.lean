import WorkspacePaths.Text.Basic

/-!
# `Document.Value` — what a configuration file holds

A document is read into a value without regard to the settings it should hold: objects with their
members in the order of the file, arrays, texts, numbers and the dates and times of one of the two
formats. The value of a fractional number, a date or a time plays no part anywhere, so only its kind
is kept.

## Contents
- `Value`, with `Value.kind`, the name of a value's kind in messages.
- `Members`: the members of an object; `Members.put` keeps the place of a key that is repeated.
- `integerDigitLimit`: how many digits an integer may have, with the message for more.
-/

namespace WorkspacePaths

/-- What a document holds. -/
inductive Value where
  | null
  | bool (b : Bool)
  | int (n : Int)
  | float
  | text (t : Text)
  | array (items : List Value)
  | object (members : List (Text × Value))
  /-- A date with a time of day. -/
  | dateTime
  | date
  | time
deriving Inhabited

/-- The members of an object, in order. -/
abbrev Members := List (Text × Value)

namespace Members

/-- The value under a key. -/
def get? (ms : Members) (key : Text) : Option Value := ms.lookup key

/-- The members with a value under a key: in the place of the old one if the key is there, else at
the end. -/
def put (ms : Members) (key : Text) (value : Value) : Members :=
  match ms with
  | [] => [(key, value)]
  | (k, v) :: rest => if k = key then (key, value) :: rest else (k, v) :: put rest key value

theorem get?_put (ms : Members) (key other : Text) (value : Value) :
    (ms.put key value).get? other = if other = key then some value else ms.get? other := by
  induction ms with
  | nil =>
    by_cases ho : other = key
    · simp [put, get?, ho]
    · simp [put, get?, ho]
  | cons m rest ih =>
    obtain ⟨k, v⟩ := m
    simp only [get?] at ih
    simp only [put, get?]
    by_cases hk : k = key
    · subst hk
      by_cases ho : other = k
      · simp [ho]
      · simp [ho, List.lookup_cons, beq_eq_false_iff_ne.mpr ho]
    · simp only [if_neg hk, List.lookup_cons, ih]
      by_cases hok : other = k
      · subst hok
        simp [hk]
      · simp [beq_eq_false_iff_ne.mpr hok]

end Members

namespace Value

/-- The kind of a value, as messages name it. -/
def kind : Value → Text
  | null => "null"
  | bool _ => "bool"
  | int _ => "int"
  | float => "float"
  | text _ => "str"
  | array _ => "array"
  | object _ => "object"
  | dateTime => "datetime"
  | date => "date"
  | time => "time"

end Value

/-- The greatest number of digits that a decimal integer may have. -/
def integerDigitLimit : Nat := 4300

/-- The message for an integer of more digits. -/
def integerMessage (digits : Nat) : Text :=
  ("ValueError: Exceeds the limit (" : Text) ++ Text.ofNat integerDigitLimit
    ++ (" digits) for integer string conversion: value has " : Text) ++ Text.ofNat digits
    ++ (" digits; use sys.set_int_max_str_digits() to increase the limit" : Text)

end WorkspacePaths
