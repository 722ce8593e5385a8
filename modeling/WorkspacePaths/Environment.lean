import WorkspacePaths.Text.Basic

/-!
# `Environment` — what resolution reads of its surroundings

Path entries mention environment variables and the user's home directory. An environment answers
for both. It is either a fixed table (`Environment.ofBindings`) or the running process, whose
variable names are byte strings: a name that has no such form cannot be looked up, which is the only
way in which a look-up fails.

## Contents
- Tables, lists of entries with keys: `lookup_without` and `lookup_with` an entry.
- `Bindings`: variables with their values.
- `Environment`, `Environment.ofBindings`.
- `TokenKind`: the two kinds of token in an entry, and which of them an environment recognises.
-/

namespace WorkspacePaths

/-! ## Tables -/

/-- What is left of a table without the entries of a key. -/
theorem lookup_without {α : Type} (l : List (Text × α)) (key other : Text) :
    (l.filter (fun e => e.1 ≠ key)).lookup other = if other = key then none else l.lookup other := by
  induction l with
  | nil => simp
  | cons e rest ih =>
    obtain ⟨name, value⟩ := e
    simp only [List.filter_cons, List.lookup_cons]
    by_cases hk : name = key
    · subst hk
      simp only [ne_eq, not_true_eq_false, decide_false, Bool.false_eq_true, if_false, ih]
      by_cases ho : other = name
      · simp [ho]
      · simp [ho, beq_eq_false_iff_ne.mpr ho]
    · simp only [ne_eq, hk, not_false_eq_true, decide_true, if_true, List.lookup_cons, ih]
      by_cases ho : other = name
      · subst ho
        simp [hk]
      · simp [beq_eq_false_iff_ne.mpr ho]

/-- What a table holds when an entry has taken the place of those of its key. -/
theorem lookup_with {α : Type} (l : List (Text × α)) (key : Text) (value : α) (other : Text) :
    ((key, value) :: l.filter (fun e => e.1 ≠ key)).lookup other
      = if other = key then some value else l.lookup other := by
  rw [List.lookup_cons, lookup_without]
  by_cases ho : other = key
  · simp [ho]
  · simp [ho, beq_eq_false_iff_ne.mpr ho]

/-! ## Bindings -/

/-- Names with their values; the first binding of a name counts. -/
abbrev Bindings := List (Text × Text)

namespace Bindings

/-- The value bound to a name. -/
def get? (bs : Bindings) (name : Text) : Option Text := bs.lookup name

/-- The bindings without those of a name. -/
def erase (bs : Bindings) (name : Text) : Bindings := bs.filter (fun b => b.1 ≠ name)

/-- The bindings with the name bound to the value. -/
def insert (bs : Bindings) (name value : Text) : Bindings := (name, value) :: bs.erase name

theorem get?_erase (bs : Bindings) (name other : Text) :
    (bs.erase name).get? other = if other = name then none else bs.get? other :=
  lookup_without bs name other

theorem get?_insert (bs : Bindings) (name value other : Text) :
    (bs.insert name value).get? other = if other = name then some value else bs.get? other :=
  lookup_with bs name value other

end Bindings

/-! ## Environments -/

/-- The two kinds of token that an entry may hold. -/
inductive TokenKind where
  /-- `$NAME`. -/
  | variable
  /-- A key between braces. -/
  | placeholder
deriving DecidableEq

/-- What resolution reads of its surroundings. -/
structure Environment where
  /-- The value of a variable, `none` if it is unset. -/
  lookup : Text → Except Text.EncodingFault (Option Text)
  /-- The user's home directory, `none` if it cannot be determined. -/
  home : Option Text
  /-- The kinds of token whose pattern is broken; such tokens are left as they are written. -/
  broken : List TokenKind := []

/-- The environment that a fixed table and a fixed home directory make up. -/
def Environment.ofBindings (bindings : Bindings) (home : Option Text) : Environment where
  lookup name := .ok (bindings.get? name)
  home := home

end WorkspacePaths
