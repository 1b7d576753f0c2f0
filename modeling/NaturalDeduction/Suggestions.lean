import NaturalDeduction.Formula.Written

/-!
# Suggestions

Suggestions are handed out one at a time. What is left of them is a value: the formulas not looked
at yet, the texts already handed out, and how many more may be. A text is handed out once only, and
no formula is written out before it is asked for.
-/

namespace NaturalDeduction

/-- What is left of a sequence of suggestions. -/
structure Suggestions where
  pending : List Formula
  offered : List String := []
  left : Nat

namespace Suggestions

/-- The distinct texts of formulas, in the order of their first occurrence. -/
def texts (φs : List Formula) : List String := (φs.map Formula.text).eraseDups

/-- The first formula whose text has not been offered, and the formulas after it. -/
def firstNew (offered : List String) : List Formula → Option (String × List Formula)
  | [] => none
  | φ :: φs => if φ.text ∈ offered then firstNew offered φs else some (φ.text, φs)

/-- The next suggestion, if one is left, and what is left after it. -/
def next? (s : Suggestions) : Option (String × Suggestions) :=
  match s.left with
  | 0 => none
  | left + 1 =>
    match firstNew s.offered s.pending with
    | none => none
    | some (text, pending) => some (text, { pending, offered := text :: s.offered, left })

/-- Up to `n` more suggestions, and what is left after them. -/
def take : Nat → Suggestions → List String × Suggestions
  | 0, s => ([], s)
  | n + 1, s =>
    match s.next? with
    | none => ([], s)
    | some (text, rest) => let (more, rest) := take n rest; (text :: more, rest)

/-- All suggestions that are left. -/
def toList (s : Suggestions) : List String := (s.take s.pending.length).1

end Suggestions

end NaturalDeduction
