import WorkspacePaths.Entry.Resolution
import WorkspacePaths.Proofs.Entry.Scan
import WorkspacePaths.Proofs.Logged

/-!
# `Proofs.Entry.Table` — resolution in a fixed table

In the environment that a fixed table makes up, no look-up fails, so expanding an entry always
yields a text. That text is put together from what each piece of the entry becomes, and the log from
what each piece is reported for. This module says what these are, and what resolution comes to in
their terms; everything about fixed tables is proved from here.

## Contents
- **Pieces.** `value`, `variableText`, `placeholderText`, and `unsetReports` for the records.
- **Expansion.** `Bindings.expandVariables`, `Bindings.expand`, with `expandVariables_ofBindings` and
  `expand_ofBindings`.
- **Resolution.** `resolve_of_surrogate`, `resolve_of_anchor`, `resolve_of_no_anchor`.
- **Texts put together.** How expansion passes over text without tokens, and over one token.
-/

namespace WorkspacePaths

namespace Bindings

/-! ## Pieces -/

/-- The value of a variable, nothing if it is unset. -/
def value (bs : Bindings) (name : Text) : Text := (bs.get? name).getD []

/-- What a piece becomes when variables are replaced. -/
def variableText (bs : Bindings) : Piece → Text
  | .plain c => [c]
  | .token name => bs.value name

/-- What is reported of a piece when variables are replaced. -/
def unsetReport (bs : Bindings) : Piece → Log
  | .plain _ => []
  | .token name => if bs.get? name = none then [⟨.warning, unsetMessage name⟩] else []

/-- What a piece becomes when placeholders are replaced. -/
def placeholderText (bs : Bindings) (folder : Text) : Piece → Text
  | .plain c => [c]
  | .token key =>
    match Reference.ofKey key with
    | .workspaceFolder => folder
    | .variable name => bs.value name
    | .unknown => openBrace :: key ++ [closeBrace]

/-! ## Expansion -/

/-- The entry with its variables replaced and without dollar signs. -/
def expandVariables (bs : Bindings) (t : Text) : Text :=
  stripDollars ((variablePieces t).flatMap bs.variableText)

/-- The reports on the unset variables of an entry, in order. -/
def unsetReports (bs : Bindings) (t : Text) : Log := (variablePieces t).flatMap bs.unsetReport

/-- The text with its placeholders replaced. -/
def replacePlaceholders (bs : Bindings) (folder t : Text) : Text :=
  (placeholderPieces t).flatMap (bs.placeholderText folder)

/-- The entry expanded. -/
def expand (bs : Bindings) (folder t : Text) : Text :=
  bs.replacePlaceholders folder (bs.expandVariables t)

variable (bs : Bindings) (home : Option Text) (folder t : Text)

theorem variableText_ofBindings (piece : Piece) :
    piece.variableText (Environment.ofBindings bs home)
      = ⟨.ok (bs.variableText piece), bs.unsetReport piece⟩ := by
  cases piece with
  | plain c => rfl
  | token name =>
    unfold Piece.variableText WorkspacePaths.variableText
    show Logged.lift (.ok (bs.get? name)) >>= _ = _
    rw [Logged.lift_ok_bind]
    cases hvalue : bs.get? name with
    | none =>
      simp only [variableText, unsetReport, value, hvalue, if_true]
      rfl
    | some v =>
      simp only [variableText, unsetReport, value, hvalue, reduceCtorEq, if_false]
      rfl

theorem placeholderText_ofBindings (piece : Piece) :
    piece.placeholderText (Environment.ofBindings bs home) folder
      = ⟨.ok (bs.placeholderText folder piece), []⟩ := by
  cases piece with
  | plain c => rfl
  | token key =>
    rcases hkey : Reference.ofKey key with _ | name | _
    all_goals
      simp only [Piece.placeholderText, WorkspacePaths.placeholderText, placeholderText, hkey]
      rfl

theorem replaceVariables_ofBindings :
    replaceVariables (Environment.ofBindings bs home) t
      = ⟨.ok ((variablePieces t).flatMap bs.variableText), bs.unsetReports t⟩ := by
  unfold replaceVariables
  rw [if_neg (by simp [Environment.ofBindings]),
    Logged.forEach_of_ok (variableText_ofBindings bs home), Logged.ok_bind]
  simp [List.flatMap_def, unsetReports]

theorem expandVariables_ofBindings :
    WorkspacePaths.expandVariables (Environment.ofBindings bs home) t
      = ⟨.ok (bs.expandVariables t), bs.unsetReports t⟩ := by
  unfold WorkspacePaths.expandVariables
  rw [replaceVariables_ofBindings, Logged.ok_bind]
  simp [expandVariables]

theorem replacePlaceholders_ofBindings :
    WorkspacePaths.replacePlaceholders (Environment.ofBindings bs home) folder t
      = ⟨.ok (bs.replacePlaceholders folder t), []⟩ := by
  unfold WorkspacePaths.replacePlaceholders
  rw [if_neg (by simp [Environment.ofBindings]),
    Logged.forEach_of_ok (placeholderText_ofBindings bs home folder), Logged.ok_bind]
  simp [List.flatMap_def, replacePlaceholders]

/-- **Expanding an entry in a fixed table** yields a text, and reports the unset variables. -/
theorem expand_ofBindings :
    WorkspacePaths.expand (Environment.ofBindings bs home) folder t
      = ⟨.ok (bs.expand folder t), bs.unsetReports t⟩ := by
  unfold WorkspacePaths.expand
  rw [expandVariables_ofBindings, Logged.ok_bind, replacePlaceholders_ofBindings]
  simp [expand]

/-! ## Texts put together -/

variable {bs folder} {a : Text} {c : CodePoint}

theorem expandVariables_append (h : dollar ∉ a) (t : Text) :
    bs.expandVariables (a ++ t) = a ++ bs.expandVariables t := by
  have hstrip : stripDollars a = a := by
    unfold stripDollars
    rw [List.filter_eq_self]
    intro c hc
    rw [decide_eq_true_iff]
    rintro rfl
    exact h hc
  unfold expandVariables
  rw [variablePieces_append h, List.flatMap_append, flatMap_plain (fun _ => rfl)]
  unfold stripDollars at hstrip ⊢
  rw [List.filter_append, hstrip]

theorem unsetReports_append (h : dollar ∉ a) (t : Text) :
    bs.unsetReports (a ++ t) = bs.unsetReports t := by
  unfold unsetReports
  rw [variablePieces_append h, List.flatMap_append, List.flatMap_map]
  simp [unsetReport]

/-- Without a dollar sign, a text stays as it is until its placeholders are read. -/
theorem expandVariables_of_no_dollar (bs : Bindings) {t : Text} (h : dollar ∉ t) :
    bs.expandVariables t = t := by
  have happend : bs.expandVariables (t ++ []) = t ++ bs.expandVariables [] :=
    expandVariables_append h []
  rw [List.append_nil] at happend
  exact happend.trans (List.append_nil t)

theorem unsetReports_of_no_dollar (bs : Bindings) {t : Text} (h : dollar ∉ t) :
    bs.unsetReports t = [] := by
  have happend : bs.unsetReports (t ++ []) = bs.unsetReports [] := unsetReports_append h []
  rw [List.append_nil] at happend
  exact happend

/-- A dollar sign that no word character follows goes away, and is not reported. -/
theorem expandVariables_dollar (h : c.isWord = false) (t : Text) :
    bs.expandVariables (dollar :: c :: t) = bs.expandVariables (c :: t) := by
  unfold expandVariables
  rw [variablePieces_dollar h, List.flatMap_cons]
  rfl

theorem unsetReports_dollar (h : c.isWord = false) (t : Text) :
    bs.unsetReports (dollar :: c :: t) = bs.unsetReports (c :: t) := by
  unfold unsetReports
  rw [variablePieces_dollar h, List.flatMap_cons]
  rfl

theorem replacePlaceholders_append (h : openBrace ∉ a) (t : Text) :
    bs.replacePlaceholders folder (a ++ t) = a ++ bs.replacePlaceholders folder t := by
  unfold replacePlaceholders
  rw [placeholderPieces_append h, List.flatMap_append, flatMap_plain (fun _ => rfl)]

theorem replacePlaceholders_token {key : Text} (hne : key ≠ []) (hkey : closeBrace ∉ key) (t : Text) :
    bs.replacePlaceholders folder (openBrace :: key ++ closeBrace :: t)
      = bs.placeholderText folder (.token key) ++ bs.replacePlaceholders folder t := by
  unfold replacePlaceholders
  rw [placeholderPieces_token hne hkey, List.flatMap_cons]

/-- Text in which no token begins is kept as it stands. -/
theorem expand_append (hdollar : dollar ∉ a) (hbrace : openBrace ∉ a) (t : Text) :
    bs.expand folder (a ++ t) = a ++ bs.expand folder t := by
  unfold expand
  rw [expandVariables_append hdollar, replacePlaceholders_append hbrace]

/-- Text in which no token begins is its own expansion. -/
theorem expand_of_no_mark (bs : Bindings) (folder : Text) {t : Text} (hdollar : dollar ∉ t)
    (hbrace : openBrace ∉ t) : bs.expand folder t = t := by
  have happend : bs.expand folder (t ++ []) = t ++ bs.expand folder [] :=
    expand_append hdollar hbrace []
  rw [List.append_nil] at happend
  exact happend.trans (List.append_nil t)

/-! ## Resolution -/

variable {home} {f : Flavour} {root : Root} {path : Text}

/-- A root without a UTF-8 form leaves the entry with its variables replaced. -/
theorem resolve_of_surrogate (h : root.text.hasSurrogate = true) (entry : Text) :
    resolve (Environment.ofBindings bs home) f root entry
      = ⟨.ok (bs.expandVariables entry),
          bs.unsetReports entry ++ [⟨.error, rootMessage root⟩]⟩ := by
  unfold resolve
  rw [expandVariables_ofBindings, Logged.ok_bind, if_pos h]
  rfl

theorem resolve_of_not_surrogate (h : root.text.hasSurrogate = false) (entry : Text) :
    resolve (Environment.ofBindings bs home) f root entry
      = ⟨(settle (Environment.ofBindings bs home) f root.text (bs.expand root.text entry)).outcome,
          bs.unsetReports entry
            ++ (settle (Environment.ofBindings bs home) f root.text
                (bs.expand root.text entry)).log⟩ := by
  unfold resolve
  rw [expandVariables_ofBindings, Logged.ok_bind, if_neg (by simp [h]),
    replacePlaceholders_ofBindings, Logged.ok_bind]
  rfl

/-- An entry with something to be anchored to becomes a normal form. -/
theorem resolve_of_anchor {entry : Text} (h : root.text.hasSurrogate = false)
    (hanchor : anchor (Environment.ofBindings bs home) f root.text (bs.expand root.text entry)
      = some path) :
    resolve (Environment.ofBindings bs home) f root entry
      = ⟨.ok (normalise f path), bs.unsetReports entry⟩ := by
  rw [resolve_of_not_surrogate h]
  unfold settle
  rw [hanchor]
  simp

/-- An entry without its home directory stays expanded. -/
theorem resolve_of_no_anchor {entry : Text} (h : root.text.hasSurrogate = false)
    (hanchor : anchor (Environment.ofBindings bs home) f root.text (bs.expand root.text entry)
      = none) :
    resolve (Environment.ofBindings bs home) f root entry
      = ⟨.ok (bs.expand root.text entry),
          bs.unsetReports entry
            ++ [⟨.error, unanchoredMessage (bs.expand root.text entry)⟩]⟩ := by
  rw [resolve_of_not_surrogate h]
  unfold settle
  rw [hanchor]
  rfl

end Bindings

end WorkspacePaths
