import WorkspacePaths.Proofs.Entry.Mentions
import WorkspacePaths.Proofs.Entry.Table

/-!
# `Proofs.Entry.Independence` — what the path of an entry does not depend on

An entry is given a path by a table of variables, a home directory and a workspace root. Of the table it
depends on the names that it mentions, by its own tokens and by the placeholders that are there once
these are replaced. On the home directory it depends only if a tilde comes out in front. The root enters
in two places: its placeholder puts it in, and it is put before whatever is not anchored elsewhere. An
entry that is free of both has the same path in every workspace.

## Contents
- **Keys.** `Reference.eq_of_ofKey_variable`, `Reference.eq_of_ofKey_workspaceFolder`: what a key that
  stands for something looks like.
- **Roots.** `replacePlaceholders_folder_congr`, `anchor_root_congr`, and `resolve_root_congr` for all of
  resolution.
- `resolve_reads_mentioned`: what resolution in a fixed table depends on;
  `resolve_reads_mentioned_of_value` for a placeholder that comes out of a value.
-/

namespace WorkspacePaths

/-! ## Keys -/

/-- A key that asks for a variable has the variable's name behind the mark of such keys. -/
theorem Reference.eq_of_ofKey_variable {key name : Text} (h : Reference.ofKey key = .variable name) :
    key = variableKeyLead ++ name := by
  unfold ofKey at h
  split at h
  · exact absurd h (by simp)
  · split at h
    · next hlead =>
      obtain ⟨rest, rfl⟩ := List.isPrefixOf_iff_prefix.mp hlead
      rw [List.drop_left, Reference.variable.injEq] at h
      rw [h]
    · exact absurd h (by simp)

theorem Reference.eq_of_ofKey_workspaceFolder {key : Text}
    (h : Reference.ofKey key = .workspaceFolder) : key = workspaceFolderKey := by
  unfold ofKey at h
  split at h
  · next heq => exact heq
  · split at h
    · exact absurd h (by simp)
    · exact absurd h (by simp)

variable {env : Environment} {f : Flavour} {root root' : Root} {folder folder' t x entry : Text}

/-! ## Roots -/

/-- Without its placeholder, the workspace folder is not put in. -/
theorem replacePlaceholders_folder_congr (h : .token workspaceFolderKey ∉ placeholderPieces t) :
    replacePlaceholders env folder t = replacePlaceholders env folder' t := by
  have hpieces : Logged.forEach (Piece.placeholderText env folder) (placeholderPieces t)
      = Logged.forEach (Piece.placeholderText env folder') (placeholderPieces t) := by
    apply Logged.forEach_congr
    intro piece hpiece
    cases piece with
    | plain c => rfl
    | token key =>
      show placeholderText env folder key = placeholderText env folder' key
      unfold placeholderText
      rcases hkey : Reference.ofKey key with _ | name | _
      · rw [Reference.eq_of_ofKey_workspaceFolder hkey] at hpiece
        exact absurd hpiece h
      · rfl
      · rfl
  unfold replacePlaceholders
  rw [hpieces]

/-- A text is anchored elsewhere than to the workspace: it begins with a tilde, or it does not begin with
`./` and is absolute. -/
def AnchoredElsewhere (f : Flavour) (t : Text) : Prop :=
  t.startsWith "~" = true ∨ (t.startsWith "./" = false ∧ f.isAbsolute t = true)

/-- Such a text is not put behind the root. -/
theorem anchor_root_congr {base base' : Text} (h : AnchoredElsewhere f t) :
    anchor env f base t = anchor env f base' t := by
  by_cases htilde : t.startsWith [tilde] = true
  · obtain ⟨rest, rfl⟩ := Text.startsWith_singleton_iff.mp htilde
    rfl
  · obtain ⟨hcurrent, habsolute⟩ := h.resolve_left htilde
    have hno : ∀ rest, t ≠ dot :: slash :: rest := by
      intro rest heq
      rw [startsWith_current_iff.mpr ⟨rest, heq⟩] at hcurrent
      exact absurd hcurrent (by simp)
    unfold anchor
    rw [Anchor.ofText_of_no_mark (Bool.not_eq_true _ ▸ htilde) hno, if_pos habsolute]

/-- **An entry that does not put the root in, and is not put behind it, has the same path in every
workspace**, and the same records. -/
theorem resolve_root_congr (hroot : root.text.hasSurrogate = false)
    (hroot' : root'.text.hasSurrogate = false)
    (hfolder : ∀ s, (expandVariables env entry).outcome = .ok s →
      .token workspaceFolderKey ∉ placeholderPieces s)
    (hanchor : ∀ x, (expand env root.text entry).outcome = .ok x → AnchoredElsewhere f x) :
    resolve env f root entry = resolve env f root' entry := by
  unfold resolve
  cases hs : (expandVariables env entry).outcome with
  | error fault => rw [Logged.bind_of_error hs, Logged.bind_of_error hs]
  | ok s =>
    have hplaceholders : replacePlaceholders env root'.text s = replacePlaceholders env root.text s :=
      replacePlaceholders_folder_congr (hfolder s hs)
    rw [Logged.bind_of_ok hs, Logged.bind_of_ok hs, hroot, hroot', hplaceholders]
    simp only [Bool.false_eq_true, if_false]
    cases hx : (replacePlaceholders env root.text s).outcome with
    | error fault => rw [Logged.bind_of_error hx, Logged.bind_of_error hx]
    | ok x =>
      have hexpand : (expand env root.text entry).outcome = .ok x := by
        unfold expand
        rw [Logged.bind_of_ok hs]
        exact hx
      have hanchored : anchor env f root.text x = anchor env f root'.text x :=
        anchor_root_congr (hanchor x hexpand)
      rw [Logged.bind_of_ok hx, Logged.bind_of_ok hx]
      unfold settle
      rw [hanchored]

/-! ## Fixed tables -/

/-- **Resolution reads only what an entry mentions.** An entry comes to some text once its variables are
replaced, and is expanded to another. A second table with a second home directory gives the entry the same
path and the same records, if the tables agree on every variable of the entry and on every variable that a
placeholder of the first text asks for, and the home directories agree if the second text begins with a
tilde. A second root gives it the same if both have a UTF-8 form, no placeholder of the first text asks for
the workspace folder, and the second text begins with a tilde or is absolute without `./` in front. -/
theorem resolve_reads_mentioned (f : Flavour) (root : Root) (bs : Bindings) (home : Option Text)
    (entry : Text) :
    ∃ replaced expanded,
      (expandVariables (.ofBindings bs home) entry).outcome = .ok replaced
      ∧ (expand (.ofBindings bs home) root.text entry).outcome = .ok expanded
      ∧ (∀ bs' home',
          (∀ name, .token name ∈ variablePieces entry → bs.get? name = bs'.get? name) →
          (∀ name, .token (variableKeyLead ++ name) ∈ placeholderPieces replaced →
            bs.get? name = bs'.get? name) →
          (expanded.startsWith "~" = true → home = home') →
          resolve (.ofBindings bs home) f root entry = resolve (.ofBindings bs' home') f root entry)
      ∧ (∀ root', root.text.hasSurrogate = false → root'.text.hasSurrogate = false →
          .token workspaceFolderKey ∉ placeholderPieces replaced →
          AnchoredElsewhere f expanded →
          resolve (.ofBindings bs home) f root entry
            = resolve (.ofBindings bs home) f root' entry) := by
  have hreplaced : (expandVariables (.ofBindings bs home) entry).outcome
      = .ok (bs.expandVariables entry) :=
    congrArg Logged.outcome (bs.expandVariables_ofBindings home entry)
  have hexpanded : (expand (.ofBindings bs home) root.text entry).outcome
      = .ok (bs.expand root.text entry) :=
    congrArg Logged.outcome (bs.expand_ofBindings home root.text entry)
  refine ⟨_, _, hreplaced, hexpanded, ?_, ?_⟩
  · intro bs' home' hvariables hplaceholders hhome
    have hbroken : (Environment.ofBindings bs home).broken = (Environment.ofBindings bs' home').broken :=
      rfl
    apply resolve_congr hbroken
    · intro name hmention
      show Except.ok (bs.get? name) = Except.ok (bs'.get? name)
      rcases hmention with hvariable | ⟨s, key, hs, hkey, href⟩
      · rw [hvariables name hvariable]
      · -- the second scan reads what the first table left, and both tables leave the same
        rw [hreplaced] at hs
        rw [← Except.ok.inj hs, Reference.eq_of_ofKey_variable href] at hkey
        rw [hplaceholders name hkey]
    · intro x hx htilde
      rw [hexpanded] at hx
      rw [← Except.ok.inj hx] at htilde
      exact hhome htilde
  · intro root' hroot hroot' hfolder hanchor
    apply resolve_root_congr hroot hroot'
    · intro s hs
      rw [hreplaced] at hs
      rw [← Except.ok.inj hs]
      exact hfolder
    · intro x hx
      rw [hexpanded] at hx
      rw [← Except.ok.inj hx]
      exact hanchor

/-- A placeholder that comes out of a value is read like one of the entry itself. So the path depends on
what it asks for, and on nothing else: neither on the other variables, nor on the home directory, nor on
the root, as the value makes the entry absolute. -/
theorem resolve_reads_mentioned_of_value :
    let bs : Bindings := [("LIB", "{env:LUA}/lib"), ("LUA", "/opt/lua")]
    let bs' : Bindings := ("SRC", "/src") :: ("LUA", "/opt/lua") :: bs
    resolve (.ofBindings bs none) .posix (.ofText "/ws") "$LIB/../x"
        = resolve (.ofBindings bs' (some "/home/me")) .posix (.ofText "/ws") "$LIB/../x"
      ∧ resolve (.ofBindings bs none) .posix (.ofText "/ws") "$LIB/../x"
        = resolve (.ofBindings bs none) .posix (.ofText "/other") "$LIB/../x"
      ∧ (resolve (.ofBindings bs none) .posix (.ofText "/ws") "$LIB/../x").outcome = .ok "/opt/lua/x" := by
  intro bs bs'
  obtain ⟨replaced, expanded, hreplaced, hexpanded, htables, hroots⟩ :=
    resolve_reads_mentioned .posix (.ofText "/ws") bs none "$LIB/../x"
  obtain rfl : "{env:LUA}/lib/../x" = replaced := Except.ok.inj (Eq.trans (by rfl) hreplaced)
  obtain rfl : "/opt/lua/lib/../x" = expanded := Except.ok.inj (Eq.trans (by rfl) hexpanded)
  have hvariables : variablePieces "$LIB/../x"
      = .token "LIB" :: ("/../x" : Text).map Piece.plain := by rfl
  have hplaceholders : placeholderPieces "{env:LUA}/lib/../x"
      = .token "env:LUA" :: ("/lib/../x" : Text).map Piece.plain := by rfl
  refine ⟨htables bs' (some "/home/me") ?_ ?_ (by decide), ?_, by rfl⟩
  · intro name hname
    rw [hvariables] at hname
    obtain rfl : name = ("LIB" : Text) := by simpa using hname
    rfl
  · intro name hname
    rw [hplaceholders] at hname
    have hkey : variableKeyLead ++ name = ("env:LUA" : Text) := by simpa using hname
    obtain rfl : name = ("LUA" : Text) := List.append_cancel_left hkey
    rfl
  · refine hroots (.ofText "/other") (by decide) (by decide) ?_ (Or.inr ⟨by decide, by decide⟩)
    rw [hplaceholders]
    decide

end WorkspacePaths
