import WorkspacePaths.Text.Utf8

/-!
# `Proofs.Text.Utf8` — texts that come back from the system

A text held by the system comes back changed only where surrogates stand for the bytes of one
sequence. Such a sequence is longer than a byte, so what takes its place lies beyond ASCII: nothing in
ASCII comes and nothing in ASCII goes. A scalar value parts what stands before it from what stands
behind.

## Contents
- **Sequences.** `le_value_of_scalar?`, `le_value_of_sequence?`; `sequence?_escapedRun`.
- **Texts.** `canonical_append_scalar`, and `canonical_eq_of_ascii`: a text that comes back as ASCII
  was that; `mem_of_mem_canonical`.
-/

namespace WorkspacePaths.Utf8

/-! ## Sequences -/

theorem le_value_of_scalar? {least n : Nat} {c : CodePoint} (h : scalar? least n = some c) :
    least ≤ c.value := by
  unfold scalar? at h
  split at h
  · exact absurd h (by simp)
  · next hle =>
    unfold CodePoint.ofNat? at h
    by_cases hvalid : n.isValidChar
    · rw [dif_pos hvalid] at h
      rw [← Option.some.inj h, CodePoint.value_scalar]
      exact Nat.le_of_not_lt hle
    · rw [dif_neg hvalid] at h
      split at h
      · next heq =>
        split at heq
        · exact absurd heq (by simp)
        · exact absurd heq (by simp)
      · exact absurd h (by simp)

/-- A sequence that does not begin with an ASCII byte lies beyond ASCII. -/
theorem le_value_of_sequence? {a : UInt8} {rest : List UInt8} {c : CodePoint} {n : Nat}
    (ha : 0x80 ≤ a.toNat) (h : sequence? (a :: rest) = some (c, n)) :
    0x80 ≤ c.value ∧ n ≤ (a :: rest).length := by
  unfold sequence? at h
  simp only [Nat.not_lt.mpr ha, if_false] at h
  split at h
  · split at h
    · simp only [Option.bind_eq_bind, Option.bind_eq_some_iff, Option.pure_def, Option.some.injEq,
        Prod.mk.injEq] at h
      obtain ⟨_, _, d, hd, rfl, rfl⟩ := h
      exact ⟨le_value_of_scalar? hd, by simp⟩
    · split at h
      · split at h
        · simp only [Option.bind_eq_bind, Option.bind_eq_some_iff, Option.pure_def,
            Option.some.injEq, Prod.mk.injEq] at h
          obtain ⟨_, _, _, _, d, hd, rfl, rfl⟩ := h
          exact ⟨Nat.le_trans (by decide) (le_value_of_scalar? hd), by simp⟩
        · split at h
          · split at h
            · simp only [Option.bind_eq_bind, Option.bind_eq_some_iff, Option.pure_def,
                Option.some.injEq, Prod.mk.injEq] at h
              obtain ⟨_, _, _, _, _, _, d, hd, rfl, rfl⟩ := h
              exact ⟨Nat.le_trans (by decide) (le_value_of_scalar? hd), by simp⟩
            · exact absurd h (by simp)
          · exact absurd h (by simp)
      · exact absurd h (by simp)
  · exact absurd h (by simp)

/-! ## Runs of bytes -/

variable {a b s t rest : Text} {c d : CodePoint} {n : Nat}

theorem le_of_mem_escapedRun {byte : UInt8} (h : byte ∈ escapedRun t) : 0x80 ≤ byte.toNat := by
  obtain ⟨c, hc, rfl⟩ := List.mem_map.mp h
  have hescaped := List.all_eq_true.mp List.all_takeWhile c hc
  simp only [CodePoint.isEscapedByte, Bool.and_eq_true, decide_eq_true_eq] at hescaped
  rw [UInt8.toNat_ofNat']
  omega

/-- A scalar value ends a run. -/
theorem escapedRun_append_scalar (a : Text) (x : Char) (b : Text) :
    escapedRun (a ++ CodePoint.scalar x :: b) = escapedRun a := by
  unfold escapedRun
  congr 1
  induction a with
  | nil => simp
  | cons c rest ih =>
    by_cases hc : c.isEscapedByte = true
    · rw [List.cons_append, List.takeWhile_cons_of_pos hc, List.takeWhile_cons_of_pos hc, ih]
    · rw [List.cons_append, List.takeWhile_cons_of_neg hc, List.takeWhile_cons_of_neg hc]

/-- What a run of bytes stands for lies beyond ASCII, and takes up no more than the run. -/
theorem sequence?_escapedRun (h : sequence? (escapedRun (c :: rest)) = some (d, n)) :
    0x80 ≤ d.value ∧ n - 1 ≤ rest.length := by
  cases hrun : escapedRun (c :: rest) with
  | nil =>
    rw [hrun] at h
    exact absurd h (by simp [sequence?])
  | cons byte bytes =>
    have hle : (escapedRun (c :: rest)).length ≤ (c :: rest).length := by
      unfold escapedRun
      rw [List.length_map]
      exact (List.takeWhile_prefix _).length_le
    have hbyte : byte ∈ escapedRun (c :: rest) := hrun ▸ List.mem_cons_self
    rw [hrun] at h
    obtain ⟨hvalue, hlength⟩ := le_value_of_sequence? (le_of_mem_escapedRun hbyte) h
    rw [← hrun] at hlength
    rw [List.length_cons] at hle
    exact ⟨hvalue, by omega⟩

/-! ## Texts -/

theorem canonicalFrom_of_none (h : sequence? (escapedRun (c :: rest)) = none) :
    canonicalFrom 0 (c :: rest) = c :: canonicalFrom 0 rest := by
  rw [canonicalFrom, h]

theorem canonicalFrom_of_some (h : sequence? (escapedRun (c :: rest)) = some (d, n)) :
    canonicalFrom 0 (c :: rest) = d :: canonicalFrom (n - 1) rest := by
  rw [canonicalFrom, h]

theorem canonicalFrom_append_scalar (x : Char) (b : Text) {skip : Nat} (h : skip ≤ a.length) :
    canonicalFrom skip (a ++ CodePoint.scalar x :: b)
      = canonicalFrom skip a ++ CodePoint.scalar x :: canonical b := by
  induction a generalizing skip with
  | nil =>
    obtain rfl : skip = 0 := Nat.le_zero.mp h
    exact canonical_scalar x b
  | cons c rest ih =>
    cases skip with
    | succ k => exact ih (Nat.le_of_succ_le_succ h)
    | zero =>
      -- the run of bytes at the front ends before the scalar value, so it stands for the same
      have hrun := escapedRun_append_scalar (c :: rest) x b
      rw [List.cons_append] at hrun ⊢
      cases hseq : sequence? (escapedRun (c :: rest)) with
      | none =>
        rw [canonicalFrom_of_none (hrun ▸ hseq), canonicalFrom_of_none hseq, ih (Nat.zero_le _),
          List.cons_append]
      | some found =>
        obtain ⟨d, n⟩ := found
        rw [canonicalFrom_of_some (hrun ▸ hseq), canonicalFrom_of_some hseq,
          ih (sequence?_escapedRun hseq).2, List.cons_append]

/-- A scalar value parts what stands before it from what stands behind. -/
theorem canonical_append_scalar (a : Text) (x : Char) (b : Text) :
    canonical (a ++ CodePoint.scalar x :: b) = canonical a ++ CodePoint.scalar x :: canonical b :=
  canonicalFrom_append_scalar x b (Nat.zero_le _)

/-- Nothing becomes ASCII that was not. -/
theorem canonical_eq_of_ascii (hs : ∀ c ∈ s, c.value < 0x80) (h : canonical t = s) : t = s := by
  induction t generalizing s with
  | nil => exact h
  | cons c rest ih =>
    unfold canonical at h ih
    cases hseq : sequence? (escapedRun (c :: rest)) with
    | none =>
      rw [canonicalFrom_of_none hseq] at h
      subst h
      rw [← ih (fun d hd => hs d (List.mem_cons_of_mem _ hd)) rfl]
    | some found =>
      obtain ⟨d, n⟩ := found
      rw [canonicalFrom_of_some hseq] at h
      -- what bytes stand for would have come back as something beyond ASCII
      have hlt := hs d (h ▸ List.mem_cons_self)
      exact absurd (sequence?_escapedRun hseq).1 (Nat.not_le.mpr hlt)

theorem mem_of_mem_canonicalFrom (hc : c.value < 0x80) {skip : Nat}
    (h : c ∈ canonicalFrom skip t) : c ∈ t := by
  induction t generalizing skip with
  | nil =>
    rw [canonicalFrom] at h
    exact absurd h List.not_mem_nil
  | cons first rest ih =>
    cases skip with
    | succ k => exact List.mem_cons_of_mem _ (ih h)
    | zero =>
      cases hseq : sequence? (escapedRun (first :: rest)) with
      | none =>
        rw [canonicalFrom_of_none hseq] at h
        rcases List.mem_cons.mp h with rfl | hin
        · exact List.mem_cons_self
        · exact List.mem_cons_of_mem _ (ih hin)
      | some found =>
        obtain ⟨d, n⟩ := found
        rw [canonicalFrom_of_some hseq] at h
        rcases List.mem_cons.mp h with rfl | hin
        · exact absurd (sequence?_escapedRun hseq).1 (Nat.not_le.mpr hc)
        · exact List.mem_cons_of_mem _ (ih hin)

/-- An ASCII code point that comes back was there. -/
theorem mem_of_mem_canonical (hc : c.value < 0x80) (h : c ∈ canonical t) : c ∈ t :=
  mem_of_mem_canonicalFrom hc h

end WorkspacePaths.Utf8
