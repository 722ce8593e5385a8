import WorkspacePaths.Logged

/-!
# `Proofs.Logged` — computations that do not fail, and those that do

Most of resolution yields a value whatever happens, and what matters is the value and the records.
Such computations are written `⟨.ok value, log⟩`; running them one after another or over a list puts
the values together and the logs behind one another. Where a look-up can fail, what matters is whether
there is a value at all, and if not whose fault comes out.

## Contents
- `toOption_eq_some_iff`: there is a value.
- `ok_bind`: the next computation goes on with the value, and its log follows.
- `bind_eq_ok_iff`, `mapFault_eq_ok_iff`: when there is a value in the end.
- `forEach_of_ok`, `forEach_congr`, `forEach_of_same`, `forEach_append`: over a list.
- **Success and faults.** `Succeeds`, with `succeeds_bind_iff` and `succeeds_forEach_iff`;
  `bind_eq_error_iff` and `exists_of_forEach_eq_error` for where a fault comes from.
-/

namespace WorkspacePaths

theorem toOption_eq_some_iff {ε α : Type} {x : Except ε α} {a : α} :
    x.toOption = some a ↔ x = .ok a := by
  cases x with
  | error e => simp [Except.toOption]
  | ok b => simp [Except.toOption]

namespace Logged

variable {ε δ α β : Type}

theorem ok_bind (a : α) (log : Log) (f : α → Logged ε β) :
    (⟨.ok a, log⟩ : Logged ε α) >>= f = ⟨(f a).outcome, log ++ (f a).log⟩ :=
  bind_of_ok rfl f

/-- Two computations yield a value one after the other exactly when each of them does. -/
theorem bind_eq_ok_iff {x : Logged ε α} {f : α → Logged ε β} {b : β} :
    (x >>= f).outcome = .ok b ↔ ∃ a, x.outcome = .ok a ∧ (f a).outcome = .ok b := by
  cases hx : x.outcome with
  | error e =>
    rw [bind_of_error hx]
    simp
  | ok a =>
    rw [bind_of_ok hx]
    simp

theorem mapFault_eq_ok_iff {f : ε → δ} {x : Logged ε α} {a : α} :
    (x.mapFault f).outcome = .ok a ↔ x.outcome = .ok a := by
  unfold mapFault
  cases hx : x.outcome with
  | error e => simp
  | ok b => simp

theorem lift_ok_bind (a : α) (f : α → Logged ε β) :
    (lift (.ok a) : Logged ε α) >>= f = f a := by
  rw [bind_of_ok (outcome_lift (.ok a))]
  rfl

/-- A computation that never fails yields, over a list, the list of its values, and logs in order. -/
theorem forEach_of_ok {f : α → Logged ε β} {value : α → β} {log : α → Log}
    (h : ∀ a, f a = ⟨.ok (value a), log a⟩) (l : List α) :
    forEach f l = ⟨.ok (l.map value), l.flatMap log⟩ := by
  induction l with
  | nil => rfl
  | cons a rest ih =>
    rw [forEach, h a, ok_bind, ih, ok_bind]
    simp only [outcome_pure, log_pure, List.append_nil, List.map_cons, List.flatMap_cons]

/-- Computations that agree on the members of a list agree on the list. -/
theorem forEach_congr {f g : α → Logged ε β} {l : List α} (h : ∀ a ∈ l, f a = g a) :
    forEach f l = forEach g l := by
  induction l with
  | nil => rfl
  | cons a rest ih =>
    rw [forEach, forEach, h a List.mem_cons_self,
      ih (fun b hb => h b (List.mem_cons_of_mem _ hb))]

/-- A computation that yields every member as it is, and logs nothing, does so with the list. -/
theorem forEach_of_same {f : α → Logged ε α} {l : List α} (h : ∀ a ∈ l, f a = ⟨.ok a, []⟩) :
    forEach f l = ⟨.ok l, []⟩ := by
  induction l with
  | nil => rfl
  | cons a rest ih =>
    rw [forEach, h a List.mem_cons_self, ok_bind, ih (fun b hb => h b (List.mem_cons_of_mem a hb)),
      ok_bind]
    rfl

/-- Over two lists in a row, the values stand in a row. -/
theorem forEach_append (f : α → Logged ε β) (a b : List α) :
    forEach f (a ++ b) = do
      let before ← forEach f a
      let after ← forEach f b
      return before ++ after := by
  induction a with
  | nil => simp only [List.nil_append, forEach, pure_bind, bind_pure]
  | cons first rest ih =>
    simp only [List.cons_append, forEach, ih, bind_assoc, pure_bind]

/-! ## Success and faults -/

/-- The computation yields a value. -/
def Succeeds (x : Logged ε α) : Prop := ∃ a, x.outcome = .ok a

theorem succeeds_pure (a : α) : (pure a : Logged ε α).Succeeds := ⟨a, rfl⟩

/-- Two computations succeed one after the other exactly when the first yields a value with which the
second succeeds. -/
theorem succeeds_bind_iff {x : Logged ε α} {f : α → Logged ε β} :
    (x >>= f).Succeeds ↔ ∃ a, x.outcome = .ok a ∧ (f a).Succeeds := by
  unfold Succeeds
  simp only [bind_eq_ok_iff]
  constructor
  · rintro ⟨b, a, ha, hb⟩
    exact ⟨a, ha, b, hb⟩
  · rintro ⟨a, ha, b, hb⟩
    exact ⟨b, a, ha, hb⟩

/-- A second computation that always succeeds leaves the question to the first. -/
theorem succeeds_bind_of_forall {x : Logged ε α} {f : α → Logged ε β} (h : ∀ a, (f a).Succeeds) :
    (x >>= f).Succeeds ↔ x.Succeeds := by
  rw [succeeds_bind_iff]
  constructor
  · rintro ⟨a, ha, _⟩
    exact ⟨a, ha⟩
  · rintro ⟨a, ha⟩
    exact ⟨a, ha, h a⟩

theorem bind_eq_error_iff {x : Logged ε α} {f : α → Logged ε β} {e : ε} :
    (x >>= f).outcome = .error e ↔
      x.outcome = .error e ∨ ∃ a, x.outcome = .ok a ∧ (f a).outcome = .error e := by
  cases hx : x.outcome with
  | error d =>
    rw [bind_of_error hx]
    simp
  | ok a =>
    rw [bind_of_ok hx]
    simp

/-- Over a list, success is success at every member. -/
theorem succeeds_forEach_iff {f : α → Logged ε β} {l : List α} :
    (forEach f l).Succeeds ↔ ∀ a ∈ l, (f a).Succeeds := by
  induction l with
  | nil => exact iff_of_true (succeeds_pure []) (fun a ha => absurd ha List.not_mem_nil)
  | cons a rest ih =>
    rw [forEach, succeeds_bind_iff, List.forall_mem_cons, ← ih]
    constructor
    · rintro ⟨b, hb, hrest⟩
      exact ⟨⟨b, hb⟩, (succeeds_bind_of_forall (fun bs => succeeds_pure (b :: bs))).mp hrest⟩
    · rintro ⟨⟨b, hb⟩, hrest⟩
      exact ⟨b, hb, (succeeds_bind_of_forall (fun bs => succeeds_pure (b :: bs))).mpr hrest⟩

/-- A fault over a list is the fault of a member. -/
theorem exists_of_forEach_eq_error {f : α → Logged ε β} {l : List α} {e : ε}
    (h : (forEach f l).outcome = .error e) : ∃ a ∈ l, (f a).outcome = .error e := by
  induction l with
  | nil => exact absurd h (by simp [forEach])
  | cons a rest ih =>
    rw [forEach] at h
    rcases bind_eq_error_iff.mp h with hfirst | ⟨b, _, hafter⟩
    · exact ⟨a, List.mem_cons_self, hfirst⟩
    · rcases bind_eq_error_iff.mp hafter with hrest | ⟨bs, _, hpure⟩
      · obtain ⟨c, hc, hfault⟩ := ih hrest
        exact ⟨c, List.mem_cons_of_mem a hc, hfault⟩
      · exact absurd hpure (by simp)

end Logged

end WorkspacePaths
