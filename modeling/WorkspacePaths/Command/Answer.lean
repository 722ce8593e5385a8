import WorkspacePaths.Text.Quoted

/-!
# `Command.Answer` — what an application answers, and how it is shown

An application answers with data of any kind. A text is shown as it is; inside a list or a record it
is quoted. A fraction is shown by its digits: with a point among them if it is neither very large
nor very small, else with one digit before the point and a power of ten.

## Contents
- **Fractions.** `Fraction`, with `Fraction.shown`.
- **Answers.** `Answer`, with `Answer.shown`.
-/

namespace WorkspacePaths.Command

/-! ## Fractions -/

/-- A decimal fraction: `digits` times a power of ten. -/
structure Fraction where
  negative : Bool := false
  digits : Nat
  power : Int := 0
deriving DecidableEq

namespace Fraction

/-- The digits, without the zeros at their end, and the place of the point behind the first digit:
the first digit counts ten to the power of one less. -/
def significant (x : Fraction) : Text × Int :=
  let all := Text.ofNat x.digits
  let zeros := (all.reverse.takeWhile (fun c => c = CodePoint.scalar '0')).length
  (all.take (all.length - zeros), all.length + x.power)

/-- So many zeros. -/
def zeros (n : Nat) : Text := List.replicate n (CodePoint.scalar '0')

/-- The digits with a point at a place among them, before them or behind them. -/
def positional (digits : Text) (point : Int) : Text :=
  if point ≤ 0 then ("0." : Text) ++ zeros (-point).toNat ++ digits
  else
    let whole := point.toNat
    if digits.length ≤ whole then digits ++ zeros (whole - digits.length) ++ (".0" : Text)
    else digits.take whole ++ ("." : Text) ++ digits.drop whole

/-- One digit, a point before the others if there are any, and a power of ten of two digits at
least. -/
def scientific (digits : Text) (point : Int) : Text :=
  let exponent := point - 1
  let size := Text.ofNat exponent.natAbs
  let others := digits.drop 1
  digits.take 1 ++ (if others = [] then [] else ("." : Text) ++ others)
    ++ (if exponent < 0 then ("e-" : Text) else ("e+" : Text)) ++ zeros (2 - size.length) ++ size

/-- The text that shows a fraction. Zeros are written out up to the sixteenth digit before the point
and the fourth behind it. -/
def shown (x : Fraction) : Text :=
  let (digits, point) := x.significant
  (if x.negative then ("-" : Text) else [])
    ++ (if x.digits = 0 then ("0.0" : Text)
      else if -4 < point && point ≤ 16 then positional digits point
      else scientific digits point)

end Fraction

/-! ## Answers -/

/-- What an application answers. -/
inductive Answer where
  | nothing
  | flag (b : Bool)
  | number (n : Int)
  | fraction (x : Fraction)
  | text (t : Text)
  | list (items : List Answer)
  | record (members : List (Text × Answer))

namespace Answer

/-- The text that shows an answer, where `shownText` shows a text. -/
def shownWith (shownText : Text → Text) : Answer → Text
  | nothing => "None"
  | flag b => if b then "True" else "False"
  | number n => if n < 0 then ("-" : Text) ++ Text.ofNat n.natAbs else Text.ofNat n.natAbs
  | fraction x => x.shown
  | text t => shownText t
  | list items => ("[" : Text) ++ Text.joinWith ", " (shownItems items) ++ ("]" : Text)
  | record members =>
    ("\x7b" : Text) ++ Text.joinWith ", " (shownMembers members) ++ ("\x7d" : Text)
where
  /-- The items of a list, each as it is shown in the list. -/
  shownItems : List Answer → List Text
    | [] => []
    | item :: rest => shownWith Text.quoted item :: shownItems rest
  /-- The members of a record, each as it is shown in the record. -/
  shownMembers : List (Text × Answer) → List Text
    | [] => []
    | (key, value) :: rest =>
      (key.quoted ++ (": " : Text) ++ shownWith Text.quoted value) :: shownMembers rest

/-- The text that shows an answer. -/
def shown (answer : Answer) : Text := answer.shownWith id

end Answer

/-! ## Examples -/

example : Fraction.shown { digits := 150, power := -2 } = ("1.5" : Text) := by decide

example : Fraction.shown { digits := 1, power := -4 } = ("0.0001" : Text) := by decide

example : Fraction.shown { digits := 25, power := -6 } = ("2.5e-05" : Text) := by decide

example : Fraction.shown { digits := 1, power := 16 } = ("1e+16" : Text) := by decide

end WorkspacePaths.Command
