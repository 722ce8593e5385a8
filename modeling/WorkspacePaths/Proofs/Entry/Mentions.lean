import WorkspacePaths.Entry.Resolution
import WorkspacePaths.Proofs.Entry.Anchor
import WorkspacePaths.Proofs.Logged

/-!
# `Proofs.Entry.Mentions` — what resolution reads of its surroundings

Resolving an entry looks up the variables that the entry mentions and no others, and asks for the home
directory only for the sake of a tilde. A variable can be mentioned in two ways, by a token of the
entry itself and by a placeholder; as values are put in before placeholders are read, a placeholder
may come out of a value too. Surroundings that agree on what is mentioned are the same to an entry.

## Contents
- `Mentions`: the variables that an entry mentions.
- `replaceVariables_congr`, `expandVariables_congr`, `replacePlaceholders_congr`, `anchor_congr`: the
  stages in two surroundings.
- `resolve_congr`, and `resolveAll_congr` for several entries.
-/

namespace WorkspacePaths

/-- The variable is mentioned by an entry: as a variable, or by a placeholder once the variables are
replaced. -/
def Mentions (env : Environment) (name entry : Text) : Prop :=
  .token name ∈ variablePieces entry
    ∨ ∃ s key, (expandVariables env entry).outcome = .ok s ∧ .token key ∈ placeholderPieces s
      ∧ Reference.ofKey key = .variable name

variable {env env' : Environment} {f : Flavour} {root : Root} {folder t entry : Text}

/-! ## Expansion -/

theorem replaceVariables_congr (hbroken : env.broken = env'.broken)
    (h : ∀ name, .token name ∈ variablePieces t → env.lookup name = env'.lookup name) :
    replaceVariables env t = replaceVariables env' t := by
  have hpieces : Logged.forEach (Piece.variableText env) (variablePieces t)
      = Logged.forEach (Piece.variableText env') (variablePieces t) := by
    apply Logged.forEach_congr
    intro piece hpiece
    cases piece with
    | plain c => rfl
    | token name =>
      show variableText env name = variableText env' name
      unfold variableText
      rw [h name hpiece]
  unfold replaceVariables
  rw [hbroken, hpieces]

theorem expandVariables_congr (hbroken : env.broken = env'.broken)
    (h : ∀ name, .token name ∈ variablePieces t → env.lookup name = env'.lookup name) :
    expandVariables env t = expandVariables env' t := by
  unfold expandVariables
  rw [replaceVariables_congr hbroken h]

theorem replacePlaceholders_congr (hbroken : env.broken = env'.broken)
    (h : ∀ key name, .token key ∈ placeholderPieces t → Reference.ofKey key = .variable name →
      env.lookup name = env'.lookup name) :
    replacePlaceholders env folder t = replacePlaceholders env' folder t := by
  have hpieces : Logged.forEach (Piece.placeholderText env folder) (placeholderPieces t)
      = Logged.forEach (Piece.placeholderText env' folder) (placeholderPieces t) := by
    apply Logged.forEach_congr
    intro piece hpiece
    cases piece with
    | plain c => rfl
    | token key =>
      show placeholderText env folder key = placeholderText env' folder key
      unfold placeholderText
      rcases hkey : Reference.ofKey key with _ | name | _
      · rfl
      · simp only [h key name hpiece hkey]
      · rfl
  unfold replacePlaceholders
  rw [hbroken, hpieces]

/-! ## Anchoring -/

theorem Anchor.startsWith_of_home {rest : Text} (h : ofText f t = .home rest) :
    t.startsWith [tilde] = true := by
  unfold ofText at h
  split at h
  · rfl
  · exact absurd h (by simp)
  · split at h
    · exact absurd h (by simp)
    · exact absurd h (by simp)

theorem anchor_congr {root : Text} (h : t.startsWith [tilde] = true → env.home = env'.home) :
    anchor env f root t = anchor env' f root t := by
  unfold anchor
  cases hof : Anchor.ofText f t with
  | home rest => simp only [h (Anchor.startsWith_of_home hof)]
  | workspace rest => rfl
  | absolute => rfl

/-! ## Resolution -/

/-- **Resolving an entry reads only what the entry mentions**: surroundings that agree on the
variables mentioned, and on the home directory if the expanded entry begins with a tilde, give the
same path and the same records. -/
theorem resolve_congr (hbroken : env.broken = env'.broken)
    (hvars : ∀ name, Mentions env name entry → env.lookup name = env'.lookup name)
    (hhome : ∀ x, (expand env root.text entry).outcome = .ok x → x.startsWith [tilde] = true →
      env.home = env'.home) :
    resolve env f root entry = resolve env' f root entry := by
  have hvariables : expandVariables env entry = expandVariables env' entry :=
    expandVariables_congr hbroken (fun name hname => hvars name (Or.inl hname))
  unfold resolve
  rw [← hvariables]
  cases hs : (expandVariables env entry).outcome with
  | error fault => rw [Logged.bind_of_error hs, Logged.bind_of_error hs]
  | ok s =>
    -- a placeholder may have come out of a value, so it is looked for in what the variables left
    have hplaceholders : replacePlaceholders env root.text s
        = replacePlaceholders env' root.text s :=
      replacePlaceholders_congr hbroken
        (fun key name hkey href => hvars name (Or.inr ⟨s, key, hs, hkey, href⟩))
    rw [Logged.bind_of_ok hs, Logged.bind_of_ok hs, ← hplaceholders]
    cases hx : (replacePlaceholders env root.text s).outcome with
    | error fault => rw [Logged.bind_of_error hx, Logged.bind_of_error hx]
    | ok x =>
      have hexpand : (expand env root.text entry).outcome = .ok x := by
        unfold expand
        rw [Logged.bind_of_ok hs]
        exact hx
      rw [Logged.bind_of_ok hx, Logged.bind_of_ok hx]
      unfold settle
      rw [anchor_congr (hhome x hexpand)]

/-- Surroundings that agree on what each of several entries mentions give them the same paths. -/
theorem resolveAll_congr {entries : List Text} (hbroken : env.broken = env'.broken)
    (hhome : env.home = env'.home)
    (hvars : ∀ entry ∈ entries, ∀ name, Mentions env name entry →
      env.lookup name = env'.lookup name) :
    resolveAll env f root entries = resolveAll env' f root entries := by
  unfold resolveAll
  rw [Logged.forEach_congr (fun entry hentry =>
    resolve_congr hbroken (hvars entry hentry) (fun _ _ _ => hhome))]

end WorkspacePaths
