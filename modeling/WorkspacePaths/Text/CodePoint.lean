/-!
# `Text.CodePoint` — Unicode code points, lone surrogates included

Path entries, environment values and document strings are sequences of code points in which half
of a surrogate pair may stand alone. Lean's `Char` holds the scalar values only, so a code point
is a scalar value or one of the 2048 surrogates.

## Contents
- **The type.** `CodePoint`, its number `value`, and the reading `ofNat?` of a number.
- **Surrogates.** `isSurrogate`, and `isEscapedByte` for the 128 of them that stand for a byte
  which is not UTF-8.
-/

namespace WorkspacePaths

/-- A Unicode code point: a scalar value, or a surrogate that is half of no pair. -/
inductive CodePoint where
  /-- A Unicode scalar value. -/
  | scalar (c : Char)
  /-- The surrogate that lies `offset` places after U+D800. -/
  | surrogate (offset : Fin 0x800)
deriving DecidableEq, Inhabited

namespace CodePoint

instance : Coe Char CodePoint := ⟨scalar⟩

/-! ## Code points as numbers -/

/-- The number of a code point. -/
def value : CodePoint → Nat
  | scalar c => c.toNat
  | surrogate k => 0xD800 + k.val

/-- The code point with the number `n`, if `n` is at most U+10FFFF. -/
def ofNat? (n : Nat) : Option CodePoint :=
  if h : n.isValidChar then some (scalar (Char.ofNatAux n h))
  else if h : 0xD800 ≤ n ∧ n < 0xE000 then some (surrogate ⟨n - 0xD800, by omega⟩)
  else none

@[simp] theorem value_scalar (c : Char) : (scalar c).value = c.toNat := rfl

@[simp] theorem value_surrogate (k : Fin 0x800) : (surrogate k).value = 0xD800 + k.val := rfl

/-! ## Surrogates -/

/-- Half of a surrogate pair, standing alone. -/
def isSurrogate : CodePoint → Bool
  | scalar _ => false
  | surrogate _ => true

/-- U+DC80 to U+DCFF stand for the bytes 0x80 to 0xFF of a name or value that is not UTF-8. -/
def isEscapedByte (c : CodePoint) : Bool :=
  0xDC80 ≤ c.value && c.value ≤ 0xDCFF

@[simp] theorem isSurrogate_scalar (c : Char) : (scalar c).isSurrogate = false := rfl

@[simp] theorem isSurrogate_surrogate (k : Fin 0x800) : (surrogate k).isSurrogate = true := rfl

@[simp] theorem isEscapedByte_scalar (c : Char) : (scalar c).isEscapedByte = false := by
  have hvalid : c.toNat < 0xD800 ∨ 0xDFFF < c.toNat ∧ c.toNat < 0x110000 := c.valid
  rw [isEscapedByte, Bool.and_eq_false_iff, decide_eq_false_iff_not, decide_eq_false_iff_not,
    value_scalar]
  omega

/-! ## Digits -/

/-- The value of an ASCII decimal digit. -/
def digit? (c : CodePoint) : Option Nat :=
  let n := c.value
  if 0x30 ≤ n && n ≤ 0x39 then some (n - 0x30) else none

/-- The value of an ASCII hexadecimal digit of either case. -/
def hexDigit? (c : CodePoint) : Option Nat :=
  let n := c.value
  if 0x30 ≤ n && n ≤ 0x39 then some (n - 0x30)
  else if 0x41 ≤ n && n ≤ 0x46 then some (n - 0x37)
  else if 0x61 ≤ n && n ≤ 0x66 then some (n - 0x57)
  else none

/-- An ASCII decimal digit. -/
def isDigit (c : CodePoint) : Bool := c.digit?.isSome

end CodePoint

end WorkspacePaths
