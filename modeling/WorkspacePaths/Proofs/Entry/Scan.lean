import WorkspacePaths.Entry.Scan

/-!
# `Proofs.Entry.Scan` — where tokens begin and end

A scan goes on behind whatever it passes over, so an entry can be read piece by piece: text in which
no token begins is passed over as it stands, and a token is taken off the front.

## Contents
- `scan_append`: in front of a text, code points at which no token begins change nothing.
- `flatMap_plain`: such code points make up the same text again.
- `exists_of_token_mem_scan`: tokens are what the recogniser found.
- `variablePieces_append`, `variablePieces_dollar`, `isWord_of_mem_variable`: variables.
- `placeholderPieces_append`, `placeholderPieces_token`: placeholders.
-/

namespace WorkspacePaths

/-- The code point with which variables begin. -/
abbrev dollar : CodePoint := CodePoint.scalar '$'

/-- The code point with which placeholders begin. -/
abbrev openBrace : CodePoint := CodePoint.scalar '\x7b'

/-- The code point with which placeholders end. -/
abbrev closeBrace : CodePoint := CodePoint.scalar '\x7d'

variable {a t key : Text} {c : CodePoint}

theorem scan_append {recognise : Recogniser}
    (h : ∀ c ∈ a, ∀ rest, recognise (c :: rest) = none) (t : Text) :
    scan recognise 0 (a ++ t) = a.map Piece.plain ++ scan recognise 0 t := by
  induction a with
  | nil => rfl
  | cons c rest ih =>
    rw [List.cons_append, scan_cons_of_none (h c List.mem_cons_self (rest ++ t)), List.map_cons,
      List.cons_append, ih (fun d hd => h d (List.mem_cons_of_mem _ hd))]

/-- Text without tokens is put together again from its pieces. -/
theorem flatMap_plain {f : Piece → Text} (hf : ∀ c, f (.plain c) = [c]) (a : Text) :
    (a.map Piece.plain).flatMap f = a := by
  rw [List.flatMap_map]
  simp [hf]

/-- Every token of a scan was recognised somewhere. -/
theorem exists_of_token_mem_scan {recognise : Recogniser} {skip : Nat}
    (h : .token key ∈ scan recognise skip t) :
    ∃ there further, recognise there = some (key, further) := by
  induction t generalizing skip with
  | nil => exact absurd h (by simp)
  | cons c rest ih =>
    cases skip with
    | succ k => exact ih h
    | zero =>
      cases hat : recognise (c :: rest) with
      | none =>
        rw [scan_cons_of_none hat] at h
        rcases List.mem_cons.mp h with heq | hrest
        · exact absurd heq (by simp)
        · exact ih hrest
      | some found =>
        obtain ⟨name, further⟩ := found
        rw [scan_cons_of_some hat] at h
        rcases List.mem_cons.mp h with heq | hrest
        · obtain rfl : key = name := Piece.token.inj heq
          exact ⟨c :: rest, further, hat⟩
        · rw [← scan_drop] at hrest
          exact ih hrest

/-! ## Variables -/

theorem variableAt?_of_ne (h : c ≠ dollar) (rest : Text) : variableAt? (c :: rest) = none := by
  unfold variableAt?
  split
  · next heq => exact absurd (List.cons.inj heq).1 h
  · rfl

theorem variablePieces_append (h : dollar ∉ a) (t : Text) :
    variablePieces (a ++ t) = a.map Piece.plain ++ variablePieces t :=
  scan_append (fun _ hc rest => variableAt?_of_ne (fun heq => h (heq ▸ hc)) rest) t

/-- A dollar sign that no word character follows is no variable. -/
theorem variablePieces_dollar (h : c.isWord = false) (t : Text) :
    variablePieces (dollar :: c :: t) = .plain dollar :: variablePieces (c :: t) := by
  refine scan_cons_of_none ?_
  simp [variableAt?, List.takeWhile_cons_of_neg, h]

/-- The name of a variable is made of word characters. -/
theorem isWord_of_mem_variable (h : .token key ∈ variablePieces t) (hc : c ∈ key) :
    c.isWord = true := by
  obtain ⟨there, further, hat⟩ := exists_of_token_mem_scan h
  unfold variableAt? at hat
  split at hat
  · next rest =>
    dsimp only at hat
    split at hat
    · exact absurd hat (by simp)
    · obtain ⟨rfl, _⟩ := Prod.mk.inj (Option.some.inj hat)
      exact List.all_eq_true.mp List.all_takeWhile c hc
  · exact absurd hat (by simp)

/-! ## Placeholders -/

theorem placeholderAt?_of_ne (h : c ≠ openBrace) (rest : Text) :
    placeholderAt? (c :: rest) = none := by
  unfold placeholderAt?
  split
  · next heq => exact absurd (List.cons.inj heq).1 h
  · rfl

theorem placeholderPieces_append (h : openBrace ∉ a) (t : Text) :
    placeholderPieces (a ++ t) = a.map Piece.plain ++ placeholderPieces t :=
  scan_append (fun _ hc rest => placeholderAt?_of_ne (fun heq => h (heq ▸ hc)) rest) t

/-- A key between braces is found, if it is not empty and holds no closing brace. -/
theorem placeholderAt?_token (hne : key ≠ []) (hkey : closeBrace ∉ key) (t : Text) :
    placeholderAt? (openBrace :: (key ++ closeBrace :: t)) = some (key, key.length + 1) := by
  have hall : ∀ c ∈ key, decide (c ≠ closeBrace) = true := by
    intro c hc
    rw [decide_eq_true_iff]
    rintro rfl
    exact hkey hc
  have htake : (key ++ closeBrace :: t).takeWhile (fun c => c ≠ closeBrace) = key := by
    rw [List.takeWhile_append_of_pos hall, List.takeWhile_cons_of_neg (by simp), List.append_nil]
  unfold placeholderAt?
  simp only [htake]
  exact if_neg (by simp [hne])

theorem placeholderPieces_token (hne : key ≠ []) (hkey : closeBrace ∉ key) (t : Text) :
    placeholderPieces (openBrace :: key ++ closeBrace :: t) = .token key :: placeholderPieces t := by
  unfold placeholderPieces
  rw [List.cons_append, scan_cons_of_some (placeholderAt?_token hne hkey t)]
  simp

end WorkspacePaths
