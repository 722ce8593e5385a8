import WorkspacePaths.Text.Basic

/-!
# `Logged` — outcomes together with the messages logged on the way

Resolution reports what it could not do as log records and goes on. A `Logged ε α` is the outcome
of such a computation, a value or a fault, with the records in the order in which they were logged.
A fault ends a computation but does not undo the records logged before it.

## Contents
- **Records.** `LogLevel` and `LogRecord`.
- **The monad.** `Logged`, `report`, `fail`, `lift`, `mapFault`.
- **Lists.** `forEach` runs a computation on every member of a list, in order.
-/

namespace WorkspacePaths

/-- How serious a log record is. -/
inductive LogLevel where
  | debug
  | warning
  | error
deriving DecidableEq

/-- A message with its level. -/
structure LogRecord where
  level : LogLevel
  message : Text
deriving DecidableEq

/-- The records of a computation, in order. -/
abbrev Log := List LogRecord

/-- The outcome of a computation and what it logged. -/
structure Logged (ε α : Type) where
  outcome : Except ε α
  log : Log

namespace Logged

variable {ε δ α β : Type}

/-- Runs `f` on the value of `x`, if there is one, and logs on after it. -/
def bind (x : Logged ε α) (f : α → Logged ε β) : Logged ε β :=
  match x.outcome with
  | .ok a => ⟨(f a).outcome, x.log ++ (f a).log⟩
  | .error e => ⟨.error e, x.log⟩

instance : Monad (Logged ε) where
  pure a := ⟨.ok a, []⟩
  bind := bind

/-- Logs one record. -/
def report (level : LogLevel) (message : Text) : Logged ε Unit := ⟨.ok (), [⟨level, message⟩]⟩

/-- Ends with a fault and logs nothing. -/
def fail (e : ε) : Logged ε α := ⟨.error e, []⟩

/-- An outcome that logs nothing. -/
def lift (x : Except ε α) : Logged ε α := ⟨x, []⟩

/-- The same computation with its fault seen as one of another kind. -/
def mapFault (f : ε → δ) (x : Logged ε α) : Logged δ α :=
  match x.outcome with
  | .ok a => ⟨.ok a, x.log⟩
  | .error e => ⟨.error (f e), x.log⟩

/-- Runs `f` on every member of a list, in order, up to the first fault. -/
def forEach (f : α → Logged ε β) : List α → Logged ε (List β)
  | [] => pure []
  | a :: rest => do
    let b ← f a
    let bs ← forEach f rest
    return b :: bs

/-! ## What each operation leaves -/

@[simp] theorem outcome_pure (a : α) : (pure a : Logged ε α).outcome = .ok a := rfl

@[simp] theorem log_pure (a : α) : (pure a : Logged ε α).log = [] := rfl

@[simp] theorem outcome_report (level : LogLevel) (message : Text) :
    (report level message : Logged ε Unit).outcome = .ok () := rfl

@[simp] theorem log_report (level : LogLevel) (message : Text) :
    (report level message : Logged ε Unit).log = [⟨level, message⟩] := rfl

@[simp] theorem outcome_fail (e : ε) : (fail e : Logged ε α).outcome = .error e := rfl

@[simp] theorem log_fail (e : ε) : (fail e : Logged ε α).log = [] := rfl

@[simp] theorem outcome_lift (x : Except ε α) : (lift x).outcome = x := rfl

@[simp] theorem log_lift (x : Except ε α) : (lift x).log = [] := rfl

theorem bind_of_ok {x : Logged ε α} {a : α} (h : x.outcome = .ok a) (f : α → Logged ε β) :
    x >>= f = ⟨(f a).outcome, x.log ++ (f a).log⟩ := by
  show bind x f = _
  simp [bind, h]

theorem bind_of_error {x : Logged ε α} {e : ε} (h : x.outcome = .error e) (f : α → Logged ε β) :
    x >>= f = ⟨.error e, x.log⟩ := by
  show bind x f = _
  simp [bind, h]

instance : LawfulMonad (Logged ε) :=
  LawfulMonad.mk' (Logged ε)
    (fun x => by
      show bind x _ = x
      rcases x with ⟨_ | _, log⟩ <;> simp [bind])
    (fun a f => by
      show bind ⟨.ok a, []⟩ f = f a
      simp [bind])
    (fun x f g => by
      show bind (bind x f) g = bind x (fun a => bind (f a) g)
      rcases x with ⟨_ | a, log⟩
      · simp [bind]
      · rcases hf : f a with ⟨_ | b, log'⟩ <;> simp [bind, hf])

end Logged

end WorkspacePaths
