import WorkspacePaths.Text.CodePoint

/-!
# `Text.Basic` — texts and the operations on them

A text is a list of code points. This module holds the few operations that the other modules need:
splitting at a separator, replacing, joining, and writing numbers.

## Contents
- **The type.** `Text`, with string literals read as texts.
- **Substrings.** `splitOn` cuts at every separator, left to right and without overlap; `joinWith`
  puts a separator back, and `joinWith_splitOn` says that the two undo each other.
- **Numbers.** `ofNat` and `lowerHex`.
- **Encoding.** `encodingFault?` finds the first run of surrogates that an encoder refuses.
-/

namespace WorkspacePaths

/-- A text is a list of code points. -/
abbrev Text := List CodePoint

namespace Text

/-- The code points of a string. -/
def ofString (s : String) : Text := s.toList.map CodePoint.scalar

instance : Coe String Text := ⟨ofString⟩

/-- Some code point of the text is a lone surrogate, so the text has no UTF-8 form. -/
def hasSurrogate (t : Text) : Bool := t.any CodePoint.isSurrogate

/-- The text begins with `lead`. -/
def startsWith (t lead : Text) : Bool := lead.isPrefixOf t

/-! ## Splitting and joining -/

/-- The parts of a text between separators, after passing over `skip` code points. -/
def splitFrom (sep : Text) : Nat → Text → List Text
  | _, [] => [[]]
  | skip + 1, _ :: rest => splitFrom sep skip rest
  | 0, c :: rest =>
    if sep.isPrefixOf (c :: rest) then [] :: splitFrom sep (sep.length - 1) rest
    else
      match splitFrom sep 0 rest with
      | [] => [[c]]
      | part :: parts => (c :: part) :: parts

/-- The parts of a text between the occurrences of `sep`, found from the left and without overlap.
An empty separator separates nothing. -/
def splitOn (t sep : Text) : List Text :=
  if sep = [] then [t] else splitFrom sep 0 t

/-- The parts one after another, with `sep` between each two. -/
def joinWith (sep : Text) (parts : List Text) : Text := sep.intercalate parts

/-- Every occurrence of `old`, found from the left and without overlap, becomes `new`. An empty
`old` occurs before every code point and at the end. -/
def replaceAll (t old new : Text) : Text :=
  if old = [] then new ++ t.flatMap (fun c => c :: new)
  else joinWith new (t.splitOn old)

theorem splitFrom_ne_nil (sep : Text) (skip : Nat) (t : Text) : splitFrom sep skip t ≠ [] := by
  induction t generalizing skip with
  | nil => cases skip <;> simp [splitFrom]
  | cons c rest ih =>
    cases skip with
    | succ k => simpa [splitFrom] using ih k
    | zero =>
      unfold splitFrom
      split
      · simp
      · split <;> simp

/-- Passing over code points first is the same as dropping them first. -/
theorem splitFrom_drop (sep : Text) (skip : Nat) (t : Text) :
    splitFrom sep skip t = splitFrom sep 0 (t.drop skip) := by
  induction t generalizing skip with
  | nil => cases skip <;> simp [splitFrom]
  | cons c rest ih =>
    cases skip with
    | zero => simp
    | succ k => simp [splitFrom, ih k]

@[simp] theorem joinWith_singleton (sep part : Text) : joinWith sep [part] = part := by
  simp [joinWith]

theorem joinWith_cons {sep part : Text} {parts : List Text} (h : parts ≠ []) :
    joinWith sep (part :: parts) = part ++ sep ++ joinWith sep parts := by
  cases parts with
  | nil => exact absurd rfl h
  | cons q qs => simp [joinWith, List.intercalate]

/-- Putting the separator back gives the text that was split. -/
theorem joinWith_splitFrom {sep : Text} (hsep : sep ≠ []) (t : Text) :
    joinWith sep (splitFrom sep 0 t) = t := by
  induction hn : t.length using Nat.strongRecOn generalizing t with
  | _ n ih =>
    cases t with
    | nil => simp [splitFrom]
    | cons c rest =>
      unfold splitFrom
      split
      · next h =>
        obtain ⟨tail, htail⟩ := List.isPrefixOf_iff_prefix.mp h
        obtain ⟨s, ss, rfl⟩ := List.exists_cons_of_ne_nil hsep
        simp only [List.cons_append, List.cons.injEq] at htail
        obtain ⟨rfl, rfl⟩ := htail
        rw [joinWith_cons (splitFrom_ne_nil _ _ _), splitFrom_drop]
        have hlt : tail.length < n := by
          simp only [← hn, List.length_cons, List.length_append]
          omega
        simp [ih tail.length hlt tail rfl]
      · have hlt : rest.length < n := by
          rw [← hn]
          simp
        have hrest := ih rest.length hlt rest rfl
        split
        · next h => exact absurd h (splitFrom_ne_nil _ _ _)
        · next part parts h =>
          rw [h] at hrest
          cases parts with
          | nil =>
            simp at hrest
            simp [hrest]
          | cons q qs =>
            rw [joinWith_cons (by simp)] at hrest ⊢
            simpa using hrest

/-- Splitting loses nothing: joining the parts gives the text back. -/
theorem joinWith_splitOn (t sep : Text) : joinWith sep (t.splitOn sep) = t := by
  unfold splitOn
  split
  · simp
  · next h => exact joinWith_splitFrom h t

/-! ## Numbers -/

/-- A natural number in decimal digits. -/
def ofNat (n : Nat) : Text := (Nat.toDigits 10 n).map CodePoint.scalar

/-- A natural number in lower-case hexadecimal, with zeros before it up to `width` digits. -/
def lowerHex (width n : Nat) : Text :=
  let digits := (Nat.toDigits 16 n).map CodePoint.scalar
  List.replicate (width - digits.length) (CodePoint.scalar '0') ++ digits

/-! ## Encoding -/

/-- Why a text has no UTF-8 form: a run of surrogates from `first` to `last`, which begins with
`codePoint`. -/
structure EncodingFault where
  codePoint : CodePoint
  first : Nat
  last : Nat
deriving DecidableEq

/-- The first run of surrogates in which one is not `allowed`, from that one to the end of the run;
`pos` is the position of the text's first code point. -/
def encodingFaultFrom (allowed : CodePoint → Bool) (pos : Nat) : Text → Option EncodingFault
  | [] => none
  | c :: rest =>
    if c.isSurrogate && !allowed c then
      some ⟨c, pos, pos + (rest.takeWhile CodePoint.isSurrogate).length⟩
    else encodingFaultFrom allowed (pos + 1) rest

/-- Why strict UTF-8 cannot hold the text. -/
def encodingFault? (t : Text) : Option EncodingFault := encodingFaultFrom (fun _ => false) 0 t

/-- Why the environment or the file system cannot hold the text: they hold any bytes, so the
surrogates that stand for a byte are allowed. -/
def systemFault? (t : Text) : Option EncodingFault := encodingFaultFrom CodePoint.isEscapedByte 0 t

namespace EncodingFault

/-- A lone surrogate as it is written in messages. -/
private def escaped (c : CodePoint) : Text := ("\\u" : Text) ++ lowerHex 4 c.value

/-- The message for a fault names the code point if the run holds just one, and the positions. -/
def message (fault : EncodingFault) : Text :=
  let span : Text :=
    if fault.first = fault.last then
      ("character '" : Text) ++ escaped fault.codePoint ++ ("' in position " : Text)
        ++ ofNat fault.first
    else
      ("characters in position " : Text) ++ ofNat fault.first ++ ("-" : Text) ++ ofNat fault.last
  ("'utf-8' codec can't encode " : Text) ++ span ++ (": surrogates not allowed" : Text)

end EncodingFault

theorem encodingFaultFrom_eq_none_iff {allowed : CodePoint → Bool} {pos : Nat} {t : Text} :
    encodingFaultFrom allowed pos t = none ↔ ∀ c ∈ t, c.isSurrogate = true → allowed c = true := by
  induction t generalizing pos with
  | nil => simp [encodingFaultFrom]
  | cons c rest ih =>
    unfold encodingFaultFrom
    by_cases hs : c.isSurrogate = true
    · by_cases ha : allowed c = true
      · simp [hs, ha, ih]
      · simp [hs, ha]
    · simp [hs, ih]

/-- A text has a UTF-8 form exactly when it holds no surrogate. -/
theorem encodingFault?_eq_none_iff {t : Text} :
    t.encodingFault? = none ↔ t.hasSurrogate = false := by
  simp [encodingFault?, encodingFaultFrom_eq_none_iff, hasSurrogate]

end Text

end WorkspacePaths
