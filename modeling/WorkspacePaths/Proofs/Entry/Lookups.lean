import WorkspacePaths.Entry.Resolution
import WorkspacePaths.Host.Basic
import WorkspacePaths.Proofs.Entry.Scan
import WorkspacePaths.Proofs.Logged

/-!
# `Proofs.Entry.Lookups` — what resolution looks up, and when it fails

Resolution has one way to fail: the surroundings do not answer for a name. Names come from two
scans. Those of the first are made of word characters, which any process has a form for. Those of the
second are whatever stands in a placeholder, surrogates too, and the name of a variable of a process
has to be a byte string. So a fixed table always answers, and a process does unless a placeholder asks
for a name that has no such form. A root without a UTF-8 form ends resolution before placeholders are
read.

## Contents
- **Names.** `Environment.Answers`, `AsksFor`, `LooksUp`.
- **Stages.** When replacing variables and placeholders succeeds, and whose fault comes out if not.
- **Entries.** `succeeds_resolve_iff`, `exists_of_resolve_eq_error`, `succeeds_resolveAll_iff`.
- **Surroundings.** `answers_ofBindings`, `Host.answers_iff`, with `resolveAll_outcome` for both;
  `resolveAll_fails_on_surrogate` for a name without a form.
-/

namespace WorkspacePaths

open Logged

/-! ## Names -/

/-- The surroundings answer for a name, be the variable set or not. -/
def Environment.Answers (env : Environment) (name : Text) : Prop :=
  ∃ value, env.lookup name = .ok value

/-- A placeholder asks for a variable, once the variables of the entry itself are replaced. -/
def AsksFor (env : Environment) (entry name : Text) : Prop :=
  TokenKind.placeholder ∉ env.broken
    ∧ ∃ s key, (expandVariables env entry).outcome = .ok s ∧ .token key ∈ placeholderPieces s
      ∧ Reference.ofKey key = .variable name

/-- Resolving an entry looks a variable up: it is one of the entry itself, or a placeholder asks for
it and the root does not end resolution before. -/
def LooksUp (env : Environment) (root : Root) (entry name : Text) : Prop :=
  (TokenKind.variable ∉ env.broken ∧ .token name ∈ variablePieces entry)
    ∨ (root.text.hasSurrogate = false ∧ AsksFor env entry name)

variable {env : Environment} {f : Flavour} {root : Root} {folder t entry name : Text}
  {fault : Text.EncodingFault}

/-! ## Stages -/

theorem succeeds_lift_lookup_iff :
    (Logged.lift (env.lookup name) : Resolution (Option Text)).Succeeds ↔ env.Answers name :=
  Iff.rfl

theorem succeeds_variableText_iff : (variableText env name).Succeeds ↔ env.Answers name := by
  unfold variableText
  rw [← succeeds_lift_lookup_iff]
  apply succeeds_bind_of_forall
  intro value
  cases value with
  | some v => exact succeeds_pure v
  | none => exact ⟨[], rfl⟩

theorem variableText_eq_error (h : (variableText env name).outcome = .error fault) :
    env.lookup name = .error fault := by
  unfold variableText at h
  rcases bind_eq_error_iff.mp h with hlookup | ⟨value, _, hafter⟩
  · exact hlookup
  · cases value with
    | some v => exact absurd hafter (by simp)
    | none => exact absurd hafter (by simp [bind_of_ok])

/-- Replacing variables succeeds if the surroundings answer for each of them. -/
theorem succeeds_replaceVariables_iff :
    (replaceVariables env t).Succeeds ↔
      (TokenKind.variable ∉ env.broken →
        ∀ name, .token name ∈ variablePieces t → env.Answers name) := by
  unfold replaceVariables
  by_cases hbroken : TokenKind.variable ∈ env.broken
  · rw [if_pos (by simpa using hbroken)]
    exact iff_of_true ⟨t, rfl⟩ (fun h => absurd hbroken h)
  · rw [if_neg (by simpa using hbroken), succeeds_bind_of_forall (fun parts => succeeds_pure _),
      succeeds_forEach_iff]
    constructor
    · intro h _ name hname
      exact succeeds_variableText_iff.mp (h (.token name) hname)
    · intro h piece hpiece
      cases piece with
      | plain c => exact succeeds_pure [c]
      | token name => exact succeeds_variableText_iff.mpr (h hbroken name hpiece)

theorem replaceVariables_eq_error (h : (replaceVariables env t).outcome = .error fault) :
    ∃ name, TokenKind.variable ∉ env.broken ∧ .token name ∈ variablePieces t
      ∧ env.lookup name = .error fault := by
  unfold replaceVariables at h
  by_cases hbroken : TokenKind.variable ∈ env.broken
  · rw [if_pos (by simpa using hbroken)] at h
    exact absurd h (by simp [bind_of_ok])
  · rw [if_neg (by simpa using hbroken)] at h
    rcases bind_eq_error_iff.mp h with hpieces | ⟨parts, _, hpure⟩
    · obtain ⟨piece, hpiece, hfault⟩ := exists_of_forEach_eq_error hpieces
      cases piece with
      | plain c => exact absurd hfault (by simp [Piece.variableText])
      | token name => exact ⟨name, hbroken, hpiece, variableText_eq_error hfault⟩
    · exact absurd hpure (by simp)

theorem succeeds_placeholderText_iff {key : Text} :
    (placeholderText env folder key).Succeeds ↔
      ∀ name, Reference.ofKey key = .variable name → env.Answers name := by
  unfold placeholderText
  rcases hkey : Reference.ofKey key with _ | asked | _
  · exact iff_of_true (succeeds_pure folder) (fun name heq => absurd heq (by simp))
  · show (Logged.lift (env.lookup asked) >>= _ : Resolution Text).Succeeds ↔ _
    rw [succeeds_bind_of_forall (fun value => succeeds_pure _), succeeds_lift_lookup_iff]
    constructor
    · rintro h name ⟨⟩
      exact h
    · intro h
      exact h asked rfl
  · exact iff_of_true (succeeds_pure _) (fun name heq => absurd heq (by simp))

theorem placeholderText_eq_error {key : Text}
    (h : (placeholderText env folder key).outcome = .error fault) :
    ∃ name, Reference.ofKey key = .variable name ∧ env.lookup name = .error fault := by
  unfold placeholderText at h
  rcases hkey : Reference.ofKey key with _ | name | _
  · rw [hkey] at h
    exact absurd h (by simp)
  · rw [hkey] at h
    rcases bind_eq_error_iff.mp h with hlookup | ⟨value, _, hpure⟩
    · exact ⟨name, rfl, hlookup⟩
    · exact absurd hpure (by simp)
  · rw [hkey] at h
    exact absurd h (by simp)

/-- Replacing placeholders succeeds if the surroundings answer for what they ask for. -/
theorem succeeds_replacePlaceholders_iff :
    (replacePlaceholders env folder t).Succeeds ↔
      (TokenKind.placeholder ∉ env.broken →
        ∀ key name, .token key ∈ placeholderPieces t → Reference.ofKey key = .variable name →
          env.Answers name) := by
  unfold replacePlaceholders
  by_cases hbroken : TokenKind.placeholder ∈ env.broken
  · rw [if_pos (by simpa using hbroken)]
    exact iff_of_true ⟨t, rfl⟩ (fun h => absurd hbroken h)
  · rw [if_neg (by simpa using hbroken), succeeds_bind_of_forall (fun parts => succeeds_pure _),
      succeeds_forEach_iff]
    constructor
    · intro h _ key name hkey href
      exact succeeds_placeholderText_iff.mp (h (.token key) hkey) name href
    · intro h piece hpiece
      cases piece with
      | plain c => exact succeeds_pure [c]
      | token key =>
        exact succeeds_placeholderText_iff.mpr (fun name href => h hbroken key name hpiece href)

theorem replacePlaceholders_eq_error (h : (replacePlaceholders env folder t).outcome = .error fault) :
    ∃ key name, TokenKind.placeholder ∉ env.broken ∧ .token key ∈ placeholderPieces t
      ∧ Reference.ofKey key = .variable name ∧ env.lookup name = .error fault := by
  unfold replacePlaceholders at h
  by_cases hbroken : TokenKind.placeholder ∈ env.broken
  · rw [if_pos (by simpa using hbroken)] at h
    exact absurd h (by simp [bind_of_ok])
  · rw [if_neg (by simpa using hbroken)] at h
    rcases bind_eq_error_iff.mp h with hpieces | ⟨parts, _, hpure⟩
    · obtain ⟨piece, hpiece, hfault⟩ := exists_of_forEach_eq_error hpieces
      cases piece with
      | plain c => exact absurd hfault (by simp [Piece.placeholderText])
      | token key =>
        obtain ⟨name, href, hlookup⟩ := placeholderText_eq_error hfault
        exact ⟨key, name, hbroken, hpiece, href, hlookup⟩
    · exact absurd hpure (by simp)

/-- Anchoring looks nothing up that could be refused. -/
theorem succeeds_settle (env : Environment) (f : Flavour) (root t : Text) :
    (settle env f root t).Succeeds := by
  unfold settle
  cases anchor env f root t with
  | some path => exact succeeds_pure _
  | none => exact ⟨t, rfl⟩

/-! ## Entries -/

theorem succeeds_expandVariables_iff :
    (expandVariables env t).Succeeds ↔ (replaceVariables env t).Succeeds := by
  unfold expandVariables
  exact succeeds_bind_of_forall (fun s => succeeds_pure _)

/-- What is left to do with an entry whose variables are replaced. -/
theorem succeeds_resolve_of_expandVariables {s : Text}
    (h : (expandVariables env entry).outcome = .ok s) :
    (resolve env f root entry).Succeeds ↔
      (root.text.hasSurrogate = false → (replacePlaceholders env root.text s).Succeeds) := by
  unfold resolve
  rw [succeeds_bind_iff]
  simp only [h, Except.ok.injEq, exists_eq_left']
  by_cases hroot : root.text.hasSurrogate = true
  · rw [if_pos hroot]
    exact iff_of_true ⟨s, rfl⟩ (fun hnot => absurd hroot (by simp [hnot]))
  · rw [if_neg hroot, succeeds_bind_of_forall (fun x => succeeds_settle env f root.text x)]
    constructor
    · intro hplaceholders _
      exact hplaceholders
    · intro h
      exact h (by simpa using hroot)

/-- **Resolving an entry succeeds exactly if the surroundings answer for all that is looked up.** -/
theorem succeeds_resolve_iff :
    (resolve env f root entry).Succeeds ↔ ∀ name, LooksUp env root entry name → env.Answers name := by
  by_cases hvariables : (expandVariables env entry).Succeeds
  · obtain ⟨s, hs⟩ := hvariables
    have hnames := succeeds_replaceVariables_iff.mp (succeeds_expandVariables_iff.mp ⟨s, hs⟩)
    rw [succeeds_resolve_of_expandVariables hs]
    constructor
    · rintro h name (⟨hbroken, hname⟩ | ⟨hroot, hbroken, s', key, hs', hkey, href⟩)
      · exact hnames hbroken name hname
      · obtain rfl : s = s' := Except.ok.inj (hs.symm.trans hs')
        exact succeeds_replacePlaceholders_iff.mp (h hroot) hbroken key name hkey href
    · intro h hroot
      apply succeeds_replacePlaceholders_iff.mpr
      intro hbroken key name hkey href
      exact h name (Or.inr ⟨hroot, hbroken, s, key, hs, hkey, href⟩)
  · -- nothing follows on variables that cannot be replaced
    refine iff_of_false ?_ ?_
    · intro h
      obtain ⟨s, hs, _⟩ := succeeds_bind_iff.mp h
      exact hvariables ⟨s, hs⟩
    · intro h
      apply hvariables
      rw [succeeds_expandVariables_iff, succeeds_replaceVariables_iff]
      exact fun hbroken name hname => h name (Or.inl ⟨hbroken, hname⟩)

/-- A fault is that of a name that is looked up. -/
theorem exists_of_resolve_eq_error (h : (resolve env f root entry).outcome = .error fault) :
    ∃ name, LooksUp env root entry name ∧ env.lookup name = .error fault := by
  unfold resolve at h
  rcases bind_eq_error_iff.mp h with hvariables | ⟨s, hs, hafter⟩
  · unfold expandVariables at hvariables
    rcases bind_eq_error_iff.mp hvariables with hreplace | ⟨_, _, hpure⟩
    · obtain ⟨name, hbroken, hname, hlookup⟩ := replaceVariables_eq_error hreplace
      exact ⟨name, Or.inl ⟨hbroken, hname⟩, hlookup⟩
    · exact absurd hpure (by simp)
  · by_cases hroot : root.text.hasSurrogate = true
    · rw [if_pos hroot] at hafter
      exact absurd hafter (by simp [bind_of_ok])
    · rw [if_neg hroot] at hafter
      rcases bind_eq_error_iff.mp hafter with hreplace | ⟨x, _, hsettle⟩
      · obtain ⟨key, name, hbroken, hkey, href, hlookup⟩ := replacePlaceholders_eq_error hreplace
        exact ⟨name, Or.inr ⟨by simpa using hroot, hbroken, s, key, hs, hkey, href⟩, hlookup⟩
      · obtain ⟨path, hpath⟩ := succeeds_settle env f root.text x
        rw [hpath] at hsettle
        exact absurd hsettle (by simp)

variable {entries : List Text}

theorem succeeds_resolveAll_iff :
    (resolveAll env f root entries).Succeeds ↔
      ∀ entry ∈ entries, ∀ name, LooksUp env root entry name → env.Answers name := by
  unfold resolveAll
  rw [succeeds_bind_of_forall (fun paths => succeeds_pure _), succeeds_forEach_iff]
  simp only [succeeds_resolve_iff]

theorem exists_of_resolveAll_eq_error (h : (resolveAll env f root entries).outcome = .error fault) :
    ∃ entry ∈ entries, ∃ name, LooksUp env root entry name ∧ env.lookup name = .error fault := by
  unfold resolveAll at h
  rcases bind_eq_error_iff.mp h with hentries | ⟨paths, _, hpure⟩
  · obtain ⟨entry, hentry, hfault⟩ := exists_of_forEach_eq_error hentries
    exact ⟨entry, hentry, exists_of_resolve_eq_error hfault⟩
  · exact absurd hpure (by simp)

/-! ## Surroundings -/

/-- A fixed table answers for every name. -/
theorem answers_ofBindings (bs : Bindings) (home : Option Text) (name : Text) :
    (Environment.ofBindings bs home).Answers name := ⟨_, rfl⟩

/-- The text has a form as a byte string: its surrogates stand for bytes. -/
def Text.HasByteForm (t : Text) : Prop := ∀ c ∈ t, c.isSurrogate = true → c.isEscapedByte = true

theorem Text.systemFault?_eq_none_iff {t : Text} : t.systemFault? = none ↔ t.HasByteForm :=
  encodingFaultFrom_eq_none_iff

variable {p : Host}

theorem Host.lookup_eq_error_iff :
    p.lookup name = .error fault ↔ name.systemFault? = some fault := by
  unfold Host.lookup
  cases name.systemFault? with
  | none => simp
  | some other => simp

/-- A process answers for the names that have a form as byte strings. -/
theorem Host.answers_iff : p.environment.Answers name ↔ name.HasByteForm := by
  rw [← Text.systemFault?_eq_none_iff]
  show (∃ value, p.lookup name = .ok value) ↔ _
  unfold Host.lookup
  cases name.systemFault? with
  | none => simp
  | some fault => simp

/-- The name of a variable has a form as a byte string, as no word character is a surrogate. -/
theorem hasByteForm_of_mem_variable (h : .token name ∈ variablePieces t) : name.HasByteForm := by
  intro c hc hsurrogate
  rw [CodePoint.isSurrogate_of_isWord (isWord_of_mem_variable h hc)] at hsurrogate
  exact absurd hsurrogate (by simp)

/-- **When resolving entries fails.** In a fixed table it never does. In a process it does exactly if
the root has a UTF-8 form and a placeholder of some entry asks for a name that has no form as a byte
string, because a surrogate in it stands for no byte; and then it is that name which is refused. -/
theorem resolveAll_outcome (f : Flavour) (root : Root) (entries : List Text) :
    (∀ bs home, ∃ paths, (resolveAll (.ofBindings bs home) f root entries).outcome = .ok paths)
    ∧ ∀ p : Host,
        ((∃ paths, (resolveAll p.environment f root entries).outcome = .ok paths) ↔
          (root.text.hasSurrogate = false →
            ∀ entry ∈ entries, ∀ name, AsksFor p.environment entry name → name.HasByteForm))
        ∧ ∀ fault, (resolveAll p.environment f root entries).outcome = .error fault →
            ∃ entry ∈ entries, ∃ name, AsksFor p.environment entry name
              ∧ name.systemFault? = some fault := by
  refine ⟨?_, ?_⟩
  · intro bs home
    exact succeeds_resolveAll_iff.mpr (fun entry _ name _ => answers_ofBindings bs home name)
  · intro p
    refine ⟨?_, ?_⟩
    · show (resolveAll p.environment f root entries).Succeeds ↔ _
      rw [succeeds_resolveAll_iff]
      constructor
      · intro h hroot entry hentry name hasks
        exact Host.answers_iff.mp (h entry hentry name (Or.inr ⟨hroot, hasks⟩))
      · rintro h entry hentry name (⟨_, hvariable⟩ | ⟨hroot, hasks⟩)
        · exact Host.answers_iff.mpr (hasByteForm_of_mem_variable hvariable)
        · exact Host.answers_iff.mpr (h hroot entry hentry name hasks)
    · intro fault hfault
      obtain ⟨entry, hentry, name, hlooks, hlookup⟩ := exists_of_resolveAll_eq_error hfault
      have hname : name.systemFault? = some fault := Host.lookup_eq_error_iff.mp hlookup
      rcases hlooks with ⟨_, hvariable⟩ | ⟨_, hasks⟩
      · -- the name of a variable cannot be the one
        rw [Text.systemFault?_eq_none_iff.mpr (hasByteForm_of_mem_variable hvariable)] at hname
        exact absurd hname (by simp)
      · exact ⟨entry, hentry, name, hasks, hname⟩

/-- **Resolving can fail**: a placeholder with a surrogate that stands for no byte is refused. -/
theorem resolveAll_fails_on_surrogate :
    ¬ ∀ (p : Host) (f : Flavour) (root : Text) (entries : List Text),
      f = .posix ∨ f = .windows →
      ∃ paths, (resolveAll p.environment f (.ofText root) entries).outcome = .ok paths := by
  intro h
  let entry : Text := openBrace :: variableKeyLead ++ [CodePoint.surrogate 0, closeBrace]
  obtain ⟨paths, hpaths⟩ := h {} .posix "/ws" [entry] (Or.inl rfl)
  have hfails : (resolveAll (Host.environment {}) .posix (.ofText "/ws") [entry]).outcome
      = .error ⟨CodePoint.surrogate 0, 0, 0⟩ := by
    rfl
  rw [hfails] at hpaths
  exact absurd hpaths (by simp)

end WorkspacePaths
