import WorkspacePaths.Entry.Resolution
import WorkspacePaths.Proofs.Entry.Tokens
import WorkspacePaths.Proofs.Logged

/-!
# `Proofs.Entry.Dollars` — dollar signs that begin no variable

A dollar sign that no word character follows is no variable, and it ends the name of the one before it as
well as anything else there would. So it makes no difference to the variables around it, and once these
are replaced it is taken away with all other dollar signs. An entry means the same with it and without it,
wherever it stands: behind a name, among other dollar signs, in the key of a placeholder. In front of a
placeholder it makes up the older spelling, so both spellings may be used side by side.

## Contents
- `variablePieces_append_of_not_startsAtWord`, `variablePieces_extra`: variables around a dollar sign.
- `expandVariables_extra`: the entry with its variables replaced.
- `SameButSpelling`: placeholders in one spelling or the other.
- `resolve_extra_dollars`; `resolve_extra_dollars_behind_name` for one among others.
-/

namespace WorkspacePaths

variable {env : Environment} {a b s t : Text}

/-! ## Variables around a dollar sign -/

/-- A text that begins with no word character begins no word behind another text. -/
theorem startsAtWord_append (h : startsAtWord b = false) (a : Text) :
    startsAtWord (a ++ b) = startsAtWord a := by
  cases a with
  | nil => exact h
  | cons c rest => rfl

/-- In front of a text that begins with no word character, variables are found as if nothing followed. -/
theorem variablePieces_append_of_not_startsAtWord (h : startsAtWord b = false) (a : Text) :
    variablePieces (a ++ b) = variablePieces a ++ variablePieces b := by
  apply TokenForm.scan_append_of_isReading variableForm_recognises
  · intro before behind _ hopens
    exact (startsAtWord_append h behind).symm.trans hopens
  · rintro name after ⟨hne, hword, hafter⟩
    exact ⟨hne, hword, (startsAtWord_append h after).trans hafter⟩

theorem variablePieces_extra (h : startsAtWord b = false) (a : Text) :
    variablePieces (a ++ dollar :: b) = variablePieces a ++ .plain dollar :: variablePieces b := by
  have hdollar : startsAtWord (dollar :: b) = false := CodePoint.isWord_dollar
  have hopens : ¬ variableForm.Opens b := Bool.not_eq_true _ ▸ h
  have hplain : variablePieces (dollar :: b) = .plain dollar :: variablePieces b :=
    scan_cons_of_none (variableForm_recognises.no_token hopens)
  rw [variablePieces_append_of_not_startsAtWord hdollar, hplain]

theorem stripDollars_extra (a b : Text) : stripDollars (a ++ dollar :: b) = stripDollars (a ++ b) := by
  unfold stripDollars
  rw [List.filter_append, List.filter_append, List.filter_cons_of_neg (by simp)]

/-! ## Entries -/

/-- **An extra dollar sign goes away**, with the same reports and the same faults. -/
theorem expandVariables_extra (h : startsAtWord b = false) (a : Text) :
    expandVariables env (a ++ dollar :: b) = expandVariables env (a ++ b) := by
  unfold expandVariables replaceVariables
  by_cases hbroken : env.broken.contains .variable = true
  · -- all variables stay as they are written, and the sign goes with the other dollar signs
    simp only [if_pos hbroken, bind_assoc, pure_bind, stripDollars_extra]
  · -- the look-ups are those of the text without the sign, which adds a part of its own between them
    have hstrip : ∀ before after : List Text,
        stripDollars (before ++ [dollar] :: after).flatten = stripDollars (before ++ after).flatten := by
      intro before after
      rw [List.flatten_append, List.flatten_cons, List.singleton_append, stripDollars_extra,
        List.flatten_append]
    have hplain : Piece.variableText env (.plain dollar) = pure [dollar] := rfl
    rw [if_neg hbroken, if_neg hbroken, variablePieces_extra h,
      variablePieces_append_of_not_startsAtWord h]
    simp only [Logged.forEach_append, Logged.forEach, hplain, bind_assoc, pure_bind, hstrip]

/-- Two texts are the same but for the spelling of placeholders: a key between braces has a dollar sign in
front of it in one text and none in the other, any number of times. -/
inductive SameButSpelling : Text → Text → Prop where
  | nil : SameButSpelling [] []
  /-- Both go on with the same code point. -/
  | same (c : CodePoint) {s t : Text} : SameButSpelling s t → SameButSpelling (c :: s) (c :: t)
  /-- The first goes on in the older spelling. -/
  | older (key : Text) {s t : Text} : SameButSpelling s t →
      SameButSpelling (dollar :: openBrace :: key ++ closeBrace :: s) (openBrace :: key ++ closeBrace :: t)
  /-- The second goes on in the older spelling. -/
  | newer (key : Text) {s t : Text} : SameButSpelling s t →
      SameButSpelling (openBrace :: key ++ closeBrace :: s) (dollar :: openBrace :: key ++ closeBrace :: t)

/-- Spellings make no difference, whatever stands in front. -/
theorem expandVariables_of_sameButSpelling (h : SameButSpelling s t) (front : Text) :
    expandVariables env (front ++ s) = expandVariables env (front ++ t) := by
  have hbrace : ∀ rest, startsAtWord (openBrace :: rest) = false := fun _ => CodePoint.isWord_openBrace
  -- what both texts have in common goes to the front, so the text in front has to vary
  induction h generalizing front with
  | nil => rfl
  | same c _ ih =>
    have hnext := ih (front ++ [c])
    rwa [List.append_assoc, List.append_assoc] at hnext
  | older key _ ih =>
    have hnext := ih (front ++ openBrace :: key ++ [closeBrace])
    rw [List.append_assoc, List.append_assoc, List.append_assoc, List.append_assoc] at hnext
    exact (expandVariables_extra (hbrace _) front).trans hnext
  | newer key _ ih =>
    have hnext := ih (front ++ openBrace :: key ++ [closeBrace])
    rw [List.append_assoc, List.append_assoc, List.append_assoc, List.append_assoc] at hnext
    exact hnext.trans (expandVariables_extra (hbrace _) front).symm

/-- An entry is expanded and resolved from what its variables leave. -/
theorem resolve_of_expandVariables (h : expandVariables env s = expandVariables env t) :
    (∀ folder, expand env folder s = expand env folder t)
      ∧ ∀ f root, resolve env f root s = resolve env f root t := by
  refine ⟨?_, ?_⟩
  · intro folder
    unfold expand
    rw [h]
  · intro f root
    unfold resolve
    rw [h]

/-- **Extra dollar signs are harmless**, in all surroundings. A dollar sign that no word character follows
may be put anywhere into an entry: it is expanded to the same text and resolved to the same path, with the
same records, for every workspace folder, root and flavour. In particular a placeholder may have a dollar
sign in front of it, any number of them and wherever they stand. -/
theorem resolve_extra_dollars (env : Environment) :
    (∀ a b, startsAtWord b = false →
      (∀ folder, expand env folder (a ++ dollar :: b) = expand env folder (a ++ b))
        ∧ ∀ f root, resolve env f root (a ++ dollar :: b) = resolve env f root (a ++ b))
    ∧ ∀ s t, SameButSpelling s t →
      (∀ folder, expand env folder s = expand env folder t)
        ∧ ∀ f root, resolve env f root s = resolve env f root t := by
  refine ⟨?_, ?_⟩
  · intro a b h
    exact resolve_of_expandVariables (expandVariables_extra h a)
  · intro s t h
    exact resolve_of_expandVariables (expandVariables_of_sameButSpelling h [])

/-- The dollar sign ends a name, has another one behind it, and keeps the placeholder that follows from
being taken for text. In the older spelling the same entry has one dollar sign less. -/
theorem resolve_extra_dollars_behind_name :
    let env := Environment.ofBindings [("A", "/a")] none
    let root := Root.ofText "/ws"
    startsAtWord "${env:A}/$B" = false
      ∧ resolve env .posix root (("$A" : Text) ++ dollar :: "${env:A}/$B")
        = ⟨.ok "/a/a", [⟨.warning, unsetMessage "B"⟩]⟩
      ∧ SameButSpelling "$A${env:A}/$B" "$A{env:A}/$B"
      ∧ resolve env .posix root "$A${env:A}/$B" = resolve env .posix root "$A{env:A}/$B" := by
  intro env root
  have hstart : startsAtWord "${env:A}/$B" = false := by decide
  have hspelling : SameButSpelling "$A${env:A}/$B" "$A{env:A}/$B" :=
    .same _ (.same _ (.older "env:A" (.same _ (.same _ (.same _ .nil)))))
  obtain ⟨hextra, hspellings⟩ := resolve_extra_dollars env
  have hresolved : resolve env .posix root (("$A" : Text) ++ "${env:A}/$B")
      = ⟨.ok "/a/a", [⟨.warning, unsetMessage "B"⟩]⟩ := by rfl
  exact ⟨hstart, ((hextra "$A" _ hstart).2 .posix root).trans hresolved, hspelling,
    (hspellings _ _ hspelling).2 .posix root⟩

end WorkspacePaths
