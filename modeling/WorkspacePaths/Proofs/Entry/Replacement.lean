import WorkspacePaths.Proofs.Entry.Tokens
import WorkspacePaths.Proofs.Entry.Table

/-!
# `Proofs.Entry.Replacement` — replacing tokens is filling a reading

In a fixed table, variables and placeholders are replaced without fail. What comes out is the one reading
of the text with something else written for its keys: literal text stays, and what is put in is not read
again, whatever tokens it may hold. Of the variables the unset ones are reported, each as often as it
occurs. Placeholders report nothing.

A placeholder ends at the first closing brace behind it. So a text in which every opening brace has a
closing brace behind it is read alike whatever follows it.

## Contents
- **Keys.** `Reference.ofKey_variable`, `Reference.ofKey_eq_unknown_iff`.
- **Variables.** `unsetReports_of_isReading`, `replaceVariables_of_isReading`.
- **Placeholders.** `keyText`, what is written for a key; `replacePlaceholders_of_isReading`.
- **Texts in a row.** `BracesClosed`, `placeholderPieces_append_of_closed`.
- `replaceVariables_reading`, `replacePlaceholders_reading`; `replacePlaceholders_in_a_row` where a brace
  in the second text is not closed.
-/

namespace WorkspacePaths

/-! ## Keys -/

/-- What stands behind the mark of variables is the name that is asked for. -/
theorem Reference.ofKey_variable (name : Text) :
    Reference.ofKey (variableKeyLead ++ name) = .variable name := by
  have hfolder : variableKeyLead ++ name ≠ workspaceFolderKey := by
    intro h
    have hfirst : CodePoint.scalar 'e' = CodePoint.scalar 'w' := (List.cons.inj h).1
    exact absurd hfirst (by decide)
  have hlead : (variableKeyLead ++ name).startsWith variableKeyLead = true :=
    List.isPrefixOf_iff_prefix.mpr (List.prefix_append variableKeyLead name)
  unfold ofKey
  rw [if_neg hfolder, if_pos hlead, List.drop_left]

/-- A key asks for nothing that is known if it is neither the workspace folder's nor a variable's. -/
theorem Reference.ofKey_eq_unknown_iff {key : Text} :
    Reference.ofKey key = .unknown ↔
      key ≠ workspaceFolderKey ∧ key.startsWith variableKeyLead = false := by
  unfold ofKey
  by_cases hfolder : key = workspaceFolderKey
  · rw [if_pos hfolder]
    exact iff_of_false (by simp) (fun h => h.1 hfolder)
  · rw [if_neg hfolder]
    by_cases hlead : key.startsWith variableKeyLead = true
    · rw [if_pos hlead]
      exact iff_of_false (by simp) (fun h => absurd (hlead.symm.trans h.2) (by simp))
    · rw [if_neg hlead]
      exact iff_of_true rfl ⟨hfolder, Bool.not_eq_true _ ▸ hlead⟩

variable {t behind b : Text} {r : TokenReading}

/-! ## Variables -/

namespace Bindings

variable (bs : Bindings) (home : Option Text) (folder : Text)

/-- The variables that are unset are reported, in order. -/
theorem unsetReports_of_isReading (h : variableForm.IsReading t r) :
    bs.unsetReports t
      = (r.keys.filter (fun name => bs.get? name = none)).map
          (fun name => ⟨.warning, unsetMessage name⟩) := by
  unfold unsetReports variablePieces
  rw [TokenForm.pieces_of_isReading variableForm_recognises h,
    TokenReading.flatMap_pieces_keys (fun _ => rfl)]
  induction r.keys with
  | nil => rfl
  | cons name rest ih =>
    rw [List.flatMap_cons, ih, List.filter_cons]
    by_cases hunset : bs.get? name = none
    · rw [if_pos (decide_eq_true hunset), List.map_cons, unsetReport, if_pos hunset,
        List.singleton_append]
    · rw [if_neg (by simpa using hunset), unsetReport, if_neg hunset, List.nil_append]

theorem replaceVariables_of_isReading (h : variableForm.IsReading t r) :
    replaceVariables (.ofBindings bs home) t = ⟨.ok (r.fill bs.value), bs.unsetReports t⟩ := by
  have hfill : (variablePieces t).flatMap bs.variableText = r.fill bs.value := by
    unfold variablePieces
    rw [TokenForm.pieces_of_isReading variableForm_recognises h]
    exact TokenReading.flatMap_pieces (fun _ => rfl) r
  rw [replaceVariables_ofBindings, hfill]

/-! ## Placeholders -/

/-- What is written for the key of a placeholder. -/
def keyText (key : Text) : Text := bs.placeholderText folder (.token key)

theorem keyText_folder : bs.keyText folder workspaceFolderKey = folder := rfl

theorem keyText_variable (name : Text) :
    bs.keyText folder (variableKeyLead ++ name) = bs.value name := by
  simp only [keyText, placeholderText, Reference.ofKey_variable]

theorem keyText_unknown {key : Text} (h : Reference.ofKey key = .unknown) :
    bs.keyText folder key = placeholderForm.write key := by
  simp only [keyText, placeholderText, h]
  rfl

theorem replacePlaceholders_of_isReading (h : placeholderForm.IsReading t r) :
    bs.replacePlaceholders folder t = r.fill (bs.keyText folder) := by
  unfold replacePlaceholders placeholderPieces
  rw [TokenForm.pieces_of_isReading placeholderForm_recognises h]
  exact TokenReading.flatMap_pieces (fun _ => rfl) r

end Bindings

/-! ## Placeholders in texts in a row -/

/-- Every opening brace has a closing brace behind it, next to it or further on. -/
def BracesClosed (t : Text) : Prop :=
  ∀ before behind, t = before ++ openBrace :: behind → closeBrace ∈ behind

/-- So it is if no opening brace stands behind the last closing brace. -/
theorem bracesClosed_of_not_mem (front : Text) {back : Text} (hback : openBrace ∉ back) :
    BracesClosed (front ++ closeBrace :: back) := by
  intro before behind heq
  rcases List.append_eq_append_iff.mp heq with ⟨more, _, hafter⟩ | ⟨more, _, hafter⟩
  · -- the opening brace would stand behind the closing one
    cases more with
    | nil => exact absurd (List.cons.inj hafter).1 (by decide)
    | cons c rest =>
      obtain ⟨_, rfl⟩ := List.cons.inj hafter
      exact absurd (List.mem_append_right rest List.mem_cons_self) hback
  · cases more with
    | nil => exact absurd (List.cons.inj hafter).1 (by decide)
    | cons c rest =>
      obtain ⟨_, rfl⟩ := List.cons.inj hafter
      exact List.mem_append_right rest List.mem_cons_self

/-- A token that begins in front of a closing brace ends there or before, whatever comes later. -/
theorem opens_of_opens_append (hclose : closeBrace ∈ behind)
    (h : placeholderForm.Opens (behind ++ b)) : placeholderForm.Opens behind := by
  obtain ⟨key, after, heq, hne, hkey⟩ := h
  rcases List.append_eq_append_iff.mp heq with ⟨more, rfl, _⟩ | ⟨more, rfl, hafter⟩
  · -- the key cannot reach over the closing brace
    exact absurd (List.mem_append_left more hclose) hkey
  · cases more with
    | nil =>
      rw [List.append_nil] at hclose
      exact absurd hclose hkey
    | cons c rest =>
      obtain ⟨rfl, _⟩ := List.cons.inj hafter
      exact ⟨key, rest, rfl, hne, hkey⟩

/-- Behind a text whose braces are closed, placeholders are looked for anew. -/
theorem placeholderPieces_append_of_closed {a : Text} (h : BracesClosed a) (b : Text) :
    placeholderPieces (a ++ b) = placeholderPieces a ++ placeholderPieces b := by
  apply TokenForm.scan_append_of_isReading placeholderForm_recognises
  · intro before behind heq
    exact opens_of_opens_append (h before behind heq)
  · intro key after hfits
    exact hfits

/-! ## Main results -/

/-- **Replacing variables is filling a reading.** A text is read as literal text and variables in exactly
one way: every variable is a dollar sign and word characters, as many as there are, and behind a dollar
sign in literal text stands no word character. In a fixed table, replacing the variables writes for each
its value, or nothing if it is unset, and leaves the literal text. Every occurrence of an unset variable is
reported, in order, and nothing else is. -/
theorem replaceVariables_reading (t : Text) :
    ∃ r, variableForm.IsReading t r
      ∧ (∀ other, variableForm.IsReading t other → other = r)
      ∧ ∀ (bs : Bindings) home,
          replaceVariables (.ofBindings bs home) t
            = ⟨.ok (r.fill bs.value),
                (r.keys.filter (fun name => bs.get? name = none)).map
                  (fun name => ⟨.warning, unsetMessage name⟩)⟩ := by
  obtain ⟨r, hr⟩ := TokenForm.exists_isReading variableForm_recognises t
  refine ⟨r, hr, ?_, ?_⟩
  · intro other hother
    exact TokenForm.isReading_unique variableForm_recognises hother hr
  · intro bs home
    rw [bs.replaceVariables_of_isReading home hr, bs.unsetReports_of_isReading hr]

/-- What a value holds is not read again, an empty value is no unset one, and of two dollar signs in a row
the second begins the variable. -/
example : replaceVariables (.ofBindings [("A", "$B"), ("B", "")] none) "$A$B$$C-$"
    = ⟨.ok "$B$-$", [⟨.warning, unsetMessage "C"⟩]⟩ := by rfl

/-- **Replacing placeholders is filling a reading.** A text is read as literal text and placeholders in
exactly one way: the key of every placeholder is not empty and holds no closing brace, and no such key with
a closing brace stands behind an opening brace in literal text. In a fixed table, replacing the
placeholders writes the workspace folder for its key, and the value of a variable, or nothing, for the key
that asks for it. It leaves every other placeholder and the literal text, and reports nothing. So two texts
in a row may be dealt with one by one, if behind every opening brace of the first one there is a closing
brace in it. -/
theorem replacePlaceholders_reading (bs : Bindings) (home : Option Text) (folder : Text) :
    ∃ write : Text → Text,
      (write "workspaceFolder" = folder
        ∧ (∀ name, write (("env:" : Text) ++ name) = bs.value name)
        ∧ ∀ key : Text, key ≠ "workspaceFolder" → key.startsWith "env:" = false →
            write key = placeholderForm.write key)
      ∧ (∀ t, ∃ r, placeholderForm.IsReading t r
          ∧ (∀ other, placeholderForm.IsReading t other → other = r)
          ∧ replacePlaceholders (.ofBindings bs home) folder t = ⟨.ok (r.fill write), []⟩)
      ∧ ∀ a b, BracesClosed a →
          ∃ ofA ofB, replacePlaceholders (.ofBindings bs home) folder a = ⟨.ok ofA, []⟩
            ∧ replacePlaceholders (.ofBindings bs home) folder b = ⟨.ok ofB, []⟩
            ∧ replacePlaceholders (.ofBindings bs home) folder (a ++ b) = ⟨.ok (ofA ++ ofB), []⟩ := by
  have hreplace := fun t => bs.replacePlaceholders_ofBindings home folder t
  refine ⟨bs.keyText folder, ⟨bs.keyText_folder folder, bs.keyText_variable folder, ?_⟩, ?_, ?_⟩
  · intro key hfolder hlead
    exact bs.keyText_unknown folder (Reference.ofKey_eq_unknown_iff.mpr ⟨hfolder, hlead⟩)
  · intro t
    obtain ⟨r, hr⟩ := TokenForm.exists_isReading placeholderForm_recognises t
    refine ⟨r, hr, ?_, ?_⟩
    · intro other hother
      exact TokenForm.isReading_unique placeholderForm_recognises hother hr
    · rw [hreplace, bs.replacePlaceholders_of_isReading folder hr]
  · intro a b hclosed
    refine ⟨_, _, hreplace a, hreplace b, ?_⟩
    rw [hreplace]
    unfold Bindings.replacePlaceholders
    rw [placeholderPieces_append_of_closed hclosed, List.flatMap_append]

/-- An opening brace without a key is literal text. One that is not closed takes what follows into its
key, an opening brace too, and such a key asks for nothing. It takes nothing from the text in front. -/
theorem replacePlaceholders_in_a_row :
    let env := Environment.ofBindings [("A", "{workspaceFolder}")] none
    let a : Text := "{}{workspaceFolder}{env:A}-"
    let b : Text := "\x7ba{env:A}{env:A}"
    BracesClosed a
      ∧ replacePlaceholders env "/ws" a = ⟨.ok "{}/ws{workspaceFolder}-", []⟩
      ∧ replacePlaceholders env "/ws" b = ⟨.ok "\x7ba{env:A}{workspaceFolder}", []⟩
      ∧ replacePlaceholders env "/ws" (a ++ b)
        = ⟨.ok "{}/ws{workspaceFolder}-\x7ba{env:A}{workspaceFolder}", []⟩ := by
  intro env a b
  have hdash : openBrace ∉ ("-" : Text) := by decide
  have hclosed : BracesClosed a := bracesClosed_of_not_mem "{}{workspaceFolder}\x7benv:A" hdash
  have hvalueA : replacePlaceholders env "/ws" a = ⟨.ok "{}/ws{workspaceFolder}-", []⟩ := by rfl
  have hvalueB : replacePlaceholders env "/ws" b = ⟨.ok "\x7ba{env:A}{workspaceFolder}", []⟩ := by rfl
  obtain ⟨_, _, _, hrow⟩ := replacePlaceholders_reading [("A", "{workspaceFolder}")] none "/ws"
  obtain ⟨ofA, ofB, hofA, hofB, hboth⟩ := hrow a b hclosed
  obtain rfl : ("{}/ws{workspaceFolder}-" : Text) = ofA :=
    Except.ok.inj (congrArg Logged.outcome (hvalueA.symm.trans hofA))
  obtain rfl : ("\x7ba{env:A}{workspaceFolder}" : Text) = ofB :=
    Except.ok.inj (congrArg Logged.outcome (hvalueB.symm.trans hofB))
  exact ⟨hclosed, hvalueA, hvalueB, hboth⟩

end WorkspacePaths
