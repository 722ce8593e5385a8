import WorkspacePaths.Document.Json.Printer

/-!
# `Proofs.Document.QuotedText` — a quoted text is read as what it was

Between quotes, every code point is written in a way that is read as that code point and as nothing
more: a short escape, an escape by number for the other control characters, or itself. A text comes
back whole, surrogates included, as no escape by number names one.

## Contents
- `readTextFrom_escape`, `readTextFrom_plain`: the two ways in which a code point is read.
- `readTextFrom_quoteCodePoint`: one code point; `readTextFrom_quoted`: all of a text.
- `tokensFrom_quote`: a quoted text is one token.
-/

namespace WorkspacePaths.Json

/-- The code point that quotes begin and end with. -/
abbrev quoteMark : CodePoint := CodePoint.scalar '"'

/-- The code point that escapes begin with. -/
abbrev backslash : CodePoint := CodePoint.scalar '\\'

variable {start pos : Nat} {s t rest : Text} {c x : CodePoint}

/-! ## Reading one code point -/

theorem readTextFrom_skip (start pos : Nat) (s rest : Text) :
    readTextFrom start s.length pos (s ++ rest) = readTextFrom start 0 (pos + s.length) rest := by
  induction s generalizing pos with
  | nil => rfl
  | cons d more ih =>
    rw [List.cons_append, List.length_cons, readTextFrom, ih, Nat.add_assoc, Nat.add_comm 1]

theorem readTextFrom_escape (h : escape start pos (s ++ rest) = .ok (x, s.length)) :
    readTextFrom start 0 pos (backslash :: (s ++ rest))
      = before x (readTextFrom start 0 (pos + (backslash :: s).length) rest) := by
  rw [readTextFrom, if_neg (by decide), if_pos rfl, h]
  simp only [readTextFrom_skip]
  rw [List.length_cons, Nat.add_assoc, Nat.add_comm 1]

theorem readTextFrom_plain (hquote : c ≠ quoteMark) (hslash : c ≠ backslash)
    (hcontrol : 0x20 ≤ c.value) (rest : Text) :
    readTextFrom start 0 pos (c :: rest) = before c (readTextFrom start 0 (pos + 1) rest) := by
  rw [readTextFrom, if_neg hquote, if_neg hslash, if_neg (by omega)]

/-! ## Escapes by number -/

theorem ofNat?_value (c : CodePoint) : CodePoint.ofNat? c.value = some c := by
  cases c with
  | scalar d =>
    have hvalid : d.toNat.isValidChar := d.valid
    unfold CodePoint.ofNat?
    rw [CodePoint.value_scalar, dif_pos hvalid]
    rfl
  | surrogate k =>
    have hk : k.val < 0x800 := k.isLt
    have hnot : ¬ (0xD800 + k.val).isValidChar := by
      unfold Nat.isValidChar
      omega
    unfold CodePoint.ofNat?
    rw [CodePoint.value_surrogate, dif_neg hnot, dif_pos (by omega)]
    simp

theorem hex4?_lowerHex :
    ∀ n < 0x20, (Text.lowerHex 4 n).length = 4
      ∧ hex4? ((Text.lowerHex 4 n).getD 0 default) ((Text.lowerHex 4 n).getD 1 default)
          ((Text.lowerHex 4 n).getD 2 default) ((Text.lowerHex 4 n).getD 3 default) = some n := by
  decide

/-- The number of a control character, escaped, is read as that character. -/
theorem escape_lowerHex (h : c.value < 0x20) (hrest : rest ≠ []) :
    escape start pos (CodePoint.scalar 'u' :: (Text.lowerHex 4 c.value ++ rest)) = .ok (c, 5) := by
  obtain ⟨hlength, hvalue⟩ := hex4?_lowerHex c.value h
  obtain ⟨next, more, rfl⟩ := List.exists_cons_of_ne_nil hrest
  match hdigits : Text.lowerHex 4 c.value, hlength with
  | [a, b, d, e], _ =>
    rw [hdigits] at hvalue
    have hhex : hex4? a b d e = some c.value := hvalue
    show numberEscape pos (a :: b :: d :: e :: next :: more) = _
    unfold numberEscape
    simp only [hhex]
    -- the number lies below the surrogates, so no second half is looked for behind it
    rw [if_neg (by simp; omega)]
    unfold codeUnit
    rw [ofNat?_value]
    rfl

/-! ## Quoted texts -/

/-- **One code point** of a quoted text is read as itself, if something follows. -/
theorem readTextFrom_quoteCodePoint (c : CodePoint) (hrest : rest ≠ []) :
    readTextFrom start 0 pos (quoteCodePoint c ++ rest)
      = before c (readTextFrom start 0 (pos + (quoteCodePoint c).length) rest) := by
  unfold quoteCodePoint
  -- seven short escapes, then the other control characters, then what is written as it is
  split
  · exact readTextFrom_escape (s := [quoteMark]) rfl
  · exact readTextFrom_escape (s := [backslash]) rfl
  · exact readTextFrom_escape (s := [CodePoint.scalar 'b']) rfl
  · exact readTextFrom_escape (s := [CodePoint.scalar 'f']) rfl
  · exact readTextFrom_escape (s := [CodePoint.scalar 'n']) rfl
  · exact readTextFrom_escape (s := [CodePoint.scalar 'r']) rfl
  · exact readTextFrom_escape (s := [CodePoint.scalar 't']) rfl
  · next hquote hslash _ _ _ _ _ =>
    split
    · next hcontrol =>
      have hlength : (CodePoint.scalar 'u' :: Text.lowerHex 4 c.value).length = 5 := by
        rw [List.length_cons, (hex4?_lowerHex c.value hcontrol).1]
      refine readTextFrom_escape (s := CodePoint.scalar 'u' :: Text.lowerHex 4 c.value) ?_
      rw [hlength]
      exact escape_lowerHex hcontrol hrest
    · next hcontrol =>
      exact readTextFrom_plain hquote hslash (Nat.le_of_not_lt hcontrol) rest

/-- **A quoted text** is read up to its closing quote, as what it was. -/
theorem readTextFrom_quoted (start pos : Nat) (t rest : Text) :
    readTextFrom start 0 pos (t.flatMap quoteCodePoint ++ quoteMark :: rest)
      = .ok (t, pos + (t.flatMap quoteCodePoint).length + 1) := by
  induction t generalizing pos with
  | nil => rfl
  | cons c more ih =>
    rw [List.flatMap_cons, List.append_assoc, readTextFrom_quoteCodePoint c (by simp), ih,
      List.length_append, Nat.add_assoc pos]
    rfl

theorem quote_append (t rest : Text) :
    quote t ++ rest = quoteMark :: (t.flatMap quoteCodePoint ++ quoteMark :: rest) := by
  unfold quote
  rw [List.append_assoc, List.append_assoc]
  rfl

theorem tokenAt_of_readText {stop : Nat} (h : readText pos rest = .ok (t, stop)) :
    tokenAt pos (quoteMark :: rest) = (.text t, stop - pos) := by
  simp only [tokenAt, h]

theorem tokenAt_quote (pos : Nat) (t rest : Text) :
    tokenAt pos (quote t ++ rest) = (.text t, (quote t).length) := by
  have hlength : (quote t).length = (t.flatMap quoteCodePoint).length + 2 := by
    have := congrArg List.length (quote_append t [])
    simpa using this
  have hstop : pos + 1 + (t.flatMap quoteCodePoint).length + 1 - pos = (quote t).length := by
    rw [hlength]
    omega
  rw [quote_append, tokenAt_of_readText (readTextFrom_quoted pos (pos + 1) t rest), hstop]

theorem tokensFrom_skip (pos : Nat) (s rest : Text) :
    tokensFrom s.length pos (s ++ rest) = tokensFrom 0 (pos + s.length) rest := by
  induction s generalizing pos with
  | nil => rfl
  | cons d more ih =>
    rw [List.cons_append, List.length_cons, tokensFrom, ih, Nat.add_assoc, Nat.add_comm 1]

/-- A token that is not the last is taken off the front. -/
theorem tokensFrom_token {token : Token} (hblank : isBlank c = false)
    (htoken : tokenAt pos (c :: (s ++ rest)) = (token, (c :: s).length))
    (hlast : token.isLast = false) :
    tokensFrom 0 pos (c :: (s ++ rest))
      = (pos, token) :: tokensFrom 0 (pos + (c :: s).length) rest := by
  rw [tokensFrom, if_neg (by simp [hblank]), htoken]
  simp only [hlast, List.length_cons, Nat.add_sub_cancel, tokensFrom_skip]
  rw [Nat.add_assoc, Nat.add_comm 1]
  rfl

/-- A quoted text is one token. -/
theorem tokensFrom_quote (pos : Nat) (t rest : Text) :
    tokensFrom 0 pos (quote t ++ rest)
      = (pos, .text t) :: tokensFrom 0 (pos + (quote t).length) rest := by
  have hquote : quote t = quoteMark :: (t.flatMap quoteCodePoint ++ [quoteMark]) := by
    simpa using quote_append t []
  have htoken := tokenAt_quote pos t rest
  rw [hquote, List.cons_append] at htoken ⊢
  exact tokensFrom_token (by decide) htoken rfl

end WorkspacePaths.Json
