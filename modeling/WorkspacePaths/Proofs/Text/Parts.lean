import WorkspacePaths.Text.Basic

/-!
# `Proofs.Text.Parts` — the parts of a text between single separators

Where the separator is one code point, splitting a text is the splitting of lists that the library
knows, so its laws carry over: a separator in the middle parts the parts, no part holds a separator,
and joined parts are found again.

## Contents
- `splitOn_singleton`: the bridge to `List.splitOn`.
- `splitOn_append_cons`, `not_mem_of_mem_splitOn`, `splitOn_joinWith`: the laws;
  `filter_splitOn_joinWith` for joined parts of which there may be none.
- `startsWith_singleton_cons`, `startsWith_singleton_nil` and `startsWith_singleton_iff`: how a text
  begins with a separator.
- `joinWith_cons_flatMap`: joined parts as the first one and the others, each behind a separator.
- `replaceAll_singleton`: replacing one code point by another.
-/

namespace WorkspacePaths.Text

variable {sep c : CodePoint} {t part : Text}

/-! ## Beginnings -/

theorem startsWith_singleton_cons : startsWith (c :: t) [sep] = (sep == c) := by
  simp [startsWith, List.isPrefixOf]

@[simp] theorem startsWith_singleton_nil : startsWith [] [sep] = false := rfl

/-- A text begins with a separator exactly when the separator is its first code point. -/
theorem startsWith_singleton_iff : startsWith t [sep] = true ↔ ∃ rest, t = sep :: rest := by
  cases t with
  | nil => simp
  | cons d rest =>
    rw [startsWith_singleton_cons, beq_iff_eq]
    constructor
    · rintro rfl
      exact ⟨rest, rfl⟩
    · rintro ⟨_, h⟩
      exact (List.cons.inj h).1.symm

theorem startsWith_append_of_ne_nil {u : Text} (h : t ≠ []) :
    startsWith (t ++ u) [sep] = startsWith t [sep] := by
  obtain ⟨d, rest, rfl⟩ := List.exists_cons_of_ne_nil h
  rw [List.cons_append, startsWith_singleton_cons, startsWith_singleton_cons]

/-! ## Parts -/

/-- At a single separator, a text is split as a list is. -/
theorem splitOn_singleton (t : Text) (sep : CodePoint) : t.splitOn [sep] = List.splitOn sep t := by
  unfold splitOn
  rw [if_neg (List.cons_ne_nil _ _)]
  induction t with
  | nil => rfl
  | cons d rest ih =>
    rw [List.splitOn_cons_eq_if_modifyHead, splitFrom, ← ih]
    by_cases h : d = sep
    · subst h
      simp [List.isPrefixOf]
    · have hp : [sep].isPrefixOf (d :: rest) = false := by
        simp [List.isPrefixOf, Ne.symm h]
      rw [if_neg (by simp [hp]), if_neg (by simpa using h)]
      cases hs : splitFrom [sep] 0 rest with
      | nil => exact absurd hs (splitFrom_ne_nil _ _ _)
      | cons p ps => rfl

/-- A separator parts the parts before it from those behind it. -/
theorem splitOn_append_cons (a b : Text) (sep : CodePoint) :
    (a ++ sep :: b).splitOn [sep] = a.splitOn [sep] ++ b.splitOn [sep] := by
  simp only [splitOn_singleton, List.splitOn_append_cons_self]

theorem splitOn_of_not_mem (h : sep ∉ t) : t.splitOn [sep] = [t] := by
  rw [splitOn_singleton, List.splitOn_eq_singleton h]

/-- A separator in front adds one empty part. -/
theorem splitOn_cons_self (t : Text) (sep : CodePoint) :
    splitOn (sep :: t) [sep] = [] :: t.splitOn [sep] :=
  splitOn_append_cons [] t sep

/-- No part holds a separator. -/
theorem not_mem_of_mem_splitOn (h : part ∈ t.splitOn [sep]) : sep ∉ part := by
  induction t generalizing part with
  | nil =>
    rw [splitOn_of_not_mem (List.not_mem_nil), List.mem_singleton] at h
    subst h
    exact List.not_mem_nil
  | cons d rest ih =>
    by_cases hd : d = sep
    · subst hd
      rw [splitOn_cons_self, List.mem_cons] at h
      rcases h with rfl | h
      · exact List.not_mem_nil
      · exact ih h
    · rw [splitOn_singleton, List.splitOn_cons_eq_if_modifyHead, if_neg (by simpa using hd),
        ← splitOn_singleton] at h
      cases hs : splitOn rest [sep] with
      | nil => simp [hs] at h
      | cons p ps =>
        rw [hs, List.modifyHead_cons, List.mem_cons] at h
        rcases h with rfl | h
        · rw [List.mem_cons, not_or]
          exact ⟨Ne.symm hd, ih (hs ▸ List.mem_cons_self)⟩
        · exact ih (hs ▸ List.mem_cons_of_mem _ h)

/-- Joined parts are found again, if there are any and none of them holds a separator. -/
theorem splitOn_joinWith {parts : List Text} (hne : parts ≠ []) (h : ∀ part ∈ parts, sep ∉ part) :
    (joinWith [sep] parts).splitOn [sep] = parts := by
  rw [splitOn_singleton, joinWith, List.splitOn_intercalate sep h hne]

/-- Joined parts are read one by one by whatever passes over empty parts; there may be none. -/
theorem foldl_splitOn_joinWith {α : Type} {f : α → Text → α} (hskip : ∀ a, f a [] = a)
    {parts : List Text} (h : ∀ part ∈ parts, sep ∉ part) (a : α) :
    ((joinWith [sep] parts).splitOn [sep]).foldl f a = parts.foldl f a := by
  by_cases hne : parts = []
  · subst hne
    exact hskip a
  · rw [splitOn_joinWith hne h]

/-- Of joined parts, those that pass a test which empty parts do not pass are found again. -/
theorem filter_splitOn_joinWith {test : Text → Bool} (hempty : test [] = false)
    {parts : List Text} (h : ∀ part ∈ parts, sep ∉ part) :
    ((joinWith [sep] parts).splitOn [sep]).filter test = parts.filter test := by
  by_cases hne : parts = []
  · subst hne
    exact List.filter_cons_of_neg (by simp [hempty])
  · rw [splitOn_joinWith hne h]

/-- Joined parts that are not empty do not begin with a separator. -/
theorem startsWith_joinWith {parts : List Text} (h : ∀ part ∈ parts, part ≠ [] ∧ sep ∉ part) :
    (joinWith [sep] parts).startsWith [sep] = false := by
  cases parts with
  | nil => rfl
  | cons first rest =>
    obtain ⟨hne, hsep⟩ := h first List.mem_cons_self
    have hfirst : first.startsWith [sep] = false := by
      obtain ⟨c, cs, rfl⟩ := List.exists_cons_of_ne_nil hne
      rw [startsWith_singleton_cons, beq_eq_false_iff_ne]
      rintro rfl
      exact hsep List.mem_cons_self
    by_cases hrest : rest = []
    · rw [hrest, joinWith_singleton, hfirst]
    · rw [joinWith_cons hrest, List.append_assoc, startsWith_append_of_ne_nil hne, hfirst]

theorem joinWith_cons_flatMap (sep first : Text) (rest : List Text) :
    joinWith sep (first :: rest) = first ++ rest.flatMap (fun part => sep ++ part) := by
  induction rest generalizing first with
  | nil => rw [joinWith_singleton, List.flatMap_nil, List.append_nil]
  | cons second more ih =>
    rw [joinWith_cons (List.cons_ne_nil _ _), ih, List.flatMap_cons, List.append_assoc,
      List.append_assoc]

theorem mem_joinWith {parts : List Text} (hpart : part ∈ parts) (hc : c ∈ part) (sep : Text) :
    c ∈ joinWith sep parts := by
  cases parts with
  | nil => exact absurd hpart List.not_mem_nil
  | cons first rest =>
    rw [joinWith_cons_flatMap, List.mem_append]
    rcases List.mem_cons.mp hpart with rfl | hin
    · exact Or.inl hc
    · exact Or.inr (List.mem_flatMap.mpr ⟨part, hin, List.mem_append_right _ hc⟩)

/-- Nothing stands in joined parts but what stands in a part or in the separator. -/
theorem mem_or_exists_of_mem_joinWith {parts : List Text} {sep : Text}
    (h : c ∈ joinWith sep parts) : c ∈ sep ∨ ∃ part ∈ parts, c ∈ part := by
  cases parts with
  | nil => exact absurd h List.not_mem_nil
  | cons first rest =>
    rw [joinWith_cons_flatMap, List.mem_append, List.mem_flatMap] at h
    rcases h with hfirst | ⟨part, hpart, hc⟩
    · exact Or.inr ⟨first, List.mem_cons_self, hfirst⟩
    · rcases List.mem_append.mp hc with hsep | hin
      · exact Or.inl hsep
      · exact Or.inr ⟨part, List.mem_cons_of_mem _ hpart, hin⟩

/-- Nothing stands in a part but what stands in the text. -/
theorem mem_of_mem_splitOn (hpart : part ∈ t.splitOn [sep]) (hc : c ∈ part) : c ∈ t := by
  rw [← joinWith_splitOn t [sep]]
  exact mem_joinWith hpart hc [sep]

/-- Replacing one code point by another goes through the text once. -/
theorem replaceAll_singleton (t : Text) (old new : CodePoint) :
    t.replaceAll [old] [new] = t.map (fun c => if c = old then new else c) := by
  unfold replaceAll
  rw [if_neg (List.cons_ne_nil _ _)]
  induction t with
  | nil => rfl
  | cons d rest ih =>
    have hne : splitOn rest [old] ≠ [] := by
      rw [splitOn_singleton]
      exact List.splitOn_ne_nil _ _
    by_cases hd : d = old
    · subst hd
      rw [splitOn_cons_self, joinWith_cons hne, ih, List.map_cons, if_pos rfl]
      rfl
    · obtain ⟨first, parts, hparts⟩ := List.exists_cons_of_ne_nil hne
      have hsplit : splitOn (d :: rest) [old] = (d :: first) :: parts := by
        rw [splitOn_singleton, List.splitOn_cons_eq_if_modifyHead, if_neg (by simpa using hd),
          ← splitOn_singleton, hparts, List.modifyHead_cons]
      rw [hparts, joinWith_cons_flatMap] at ih
      rw [hsplit, joinWith_cons_flatMap, List.map_cons, if_neg hd, List.cons_append, ih]

end WorkspacePaths.Text
