import WorkspacePaths.Text.Basic

/-!
# `Text.Utf8` — texts as bytes

Configuration files are UTF-8 and nothing else: a byte that begins no sequence, a sequence cut short
or written longer than it need be, a surrogate and a number beyond U+10FFFF are all refused. Names
and values that the system holds may be any bytes; a byte that is not UTF-8 is read as a surrogate
of its own, and written back as that byte.

## Contents
- **Sequences.** `sequence?`, the code point that bytes begin with.
- **Files.** `decode`, and the two ways in which line ends are read: `unifyNewlines`,
  `joinNewlines`.
- **The system.** `decodeEscaped`, `encodeEscaped`, and `canonical`, a text as it comes back from
  the system; `canonical_of_not_hasSurrogate` says that a text without surrogates comes back as it
  is.
-/

namespace WorkspacePaths.Utf8

/-! ## Sequences -/

/-- The six bits of a continuation byte. -/
def tail? (b : UInt8) : Option Nat :=
  if 0x80 ≤ b && b ≤ 0xBF then some (b.toNat - 0x80) else none

/-- The scalar value with number `n`, which must lie at or above `least`: a longer sequence than
needed is refused. -/
def scalar? (least n : Nat) : Option CodePoint :=
  if n < least then none
  else
    match CodePoint.ofNat? n with
    | some (.scalar c) => some (.scalar c)
    | _ => none

/-- The code point that bytes begin with, and how many of them it takes. -/
def sequence? : List UInt8 → Option (CodePoint × Nat)
  | [] => none
  | a :: rest =>
    let lead := a.toNat
    if lead < 0x80 then (scalar? 0 lead).map (·, 1)
    else
      match rest with
      | b :: more =>
        if 0xC0 ≤ lead && lead ≤ 0xDF then do
          return (← scalar? 0x80 ((lead - 0xC0) * 0x40 + (← tail? b)), 2)
        else
          match more with
          | c :: more =>
            if 0xE0 ≤ lead && lead ≤ 0xEF then do
              let n := (lead - 0xE0) * 0x1000 + (← tail? b) * 0x40 + (← tail? c)
              return (← scalar? 0x800 n, 3)
            else
              match more with
              | d :: _ =>
                if 0xF0 ≤ lead && lead ≤ 0xF7 then do
                  let n := (lead - 0xF0) * 0x40000 + (← tail? b) * 0x1000 + (← tail? c) * 0x40
                    + (← tail? d)
                  return (← scalar? 0x10000 n, 4)
                else none
              | [] => none
          | [] => none
      | [] => none

/-! ## Files -/

/-- The text of bytes, after passing over `skip` of them; `none` if they are not UTF-8. -/
def decodeFrom : Nat → List UInt8 → Option Text
  | _, [] => some []
  | skip + 1, _ :: rest => decodeFrom skip rest
  | 0, a :: rest =>
    match sequence? (a :: rest) with
    | none => none
    | some (c, length) => (decodeFrom (length - 1) rest).map (c :: ·)

/-- The text of bytes, or `none` if they are not UTF-8. -/
def decode (bytes : List UInt8) : Option Text := decodeFrom 0 bytes

/-- Every line end, be it a carriage return, a line feed or the two in this order, becomes a line
feed. -/
def unifyNewlines : Text → Text
  | [] => []
  | .scalar '\r' :: .scalar '\n' :: rest => .scalar '\n' :: unifyNewlines rest
  | .scalar '\r' :: rest => .scalar '\n' :: unifyNewlines rest
  | c :: rest => c :: unifyNewlines rest

/-- A carriage return before a line feed is dropped; one that stands alone is kept. -/
def joinNewlines : Text → Text
  | [] => []
  | .scalar '\r' :: .scalar '\n' :: rest => .scalar '\n' :: joinNewlines rest
  | c :: rest => c :: joinNewlines rest

/-! ## The system -/

/-- The surrogate that stands for a byte. -/
def escapedByte (b : UInt8) : CodePoint :=
  (CodePoint.ofNat? (0xDC00 + b.toNat)).getD default

/-- The text of bytes, after passing over `skip` of them. -/
def decodeEscapedFrom : Nat → List UInt8 → Text
  | _, [] => []
  | skip + 1, _ :: rest => decodeEscapedFrom skip rest
  | 0, a :: rest =>
    match sequence? (a :: rest) with
    | none => escapedByte a :: decodeEscapedFrom 0 rest
    | some (c, length) => c :: decodeEscapedFrom (length - 1) rest

/-- The text of bytes, in which a byte that is not UTF-8 is a surrogate. -/
def decodeEscaped (bytes : List UInt8) : Text := decodeEscapedFrom 0 bytes

/-- The bytes of a text. A surrogate that stands for a byte is that byte, any other one a question
mark. -/
def encodeEscaped (t : Text) : List UInt8 :=
  t.flatMap fun c =>
    match c with
    | .scalar x => (String.singleton x).toUTF8.toList
    | .surrogate _ => [if c.isEscapedByte then UInt8.ofNat (c.value - 0xDC00) else 0x3F]

/-- The bytes that the surrogates at the front of a text stand for. -/
def escapedRun (t : Text) : List UInt8 :=
  (t.takeWhile CodePoint.isEscapedByte).map (fun c => UInt8.ofNat (c.value - 0xDC00))

/-- The text, after passing over `skip` code points, as it comes back from the system. -/
def canonicalFrom : Nat → Text → Text
  | _, [] => []
  | skip + 1, _ :: rest => canonicalFrom skip rest
  | 0, c :: rest =>
    match sequence? (escapedRun (c :: rest)) with
    | none => c :: canonicalFrom 0 rest
    | some (d, length) => d :: canonicalFrom (length - 1) rest

/-- A text as it comes back from the system. It was held as bytes there, so surrogates that stand
for the bytes of one sequence come back as the code point of that sequence. No sequence begins or
ends among the bytes of another code point, so nothing else is changed. -/
def canonical (t : Text) : Text := canonicalFrom 0 t

@[simp] theorem canonical_nil : canonical [] = [] := rfl

/-- A scalar value comes back as it is. -/
@[simp] theorem canonical_scalar (c : Char) (rest : Text) :
    canonical (CodePoint.scalar c :: rest) = CodePoint.scalar c :: canonical rest := by
  have hrun : escapedRun (CodePoint.scalar c :: rest) = [] := by simp [escapedRun]
  simp [canonical, canonicalFrom, hrun, sequence?]

/-- A text without surrogates comes back as it is. -/
theorem canonical_of_not_hasSurrogate {t : Text} (h : t.hasSurrogate = false) :
    canonical t = t := by
  induction t with
  | nil => rfl
  | cons c rest ih =>
    cases c with
    | scalar x => simpa using ih (by simpa [Text.hasSurrogate] using h)
    | surrogate k => simp [Text.hasSurrogate] at h

/-! ## Examples -/

/-- The surrogates that stand for bytes, in examples. -/
private def escapes (bytes : List UInt8) : Text := bytes.map escapedByte

example : canonical (("/" : Text) ++ escapes [0xC3, 0xA9]) = ("/é" : Text) := by decide

example : canonical (escapes [0xC3] ++ ("é" : Text)) = escapes [0xC3] ++ ("é" : Text) := by decide

example : canonical (escapes [0xED, 0xA0, 0x80]) = escapes [0xED, 0xA0, 0x80] := by decide

example : decodeEscaped (encodeEscaped (escapes [0xFF, 0xE2, 0x82, 0xAC]))
    = canonical (escapes [0xFF, 0xE2, 0x82, 0xAC]) := by decide

end WorkspacePaths.Utf8
