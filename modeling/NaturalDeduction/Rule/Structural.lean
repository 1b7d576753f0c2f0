import NaturalDeduction.Rule.Basic

/-!
# Double negation and reiteration

The two rules that take one plain premise and look at nothing but it and the conclusion.
-/

namespace NaturalDeduction

namespace DoubleNegation

/-- What a formula negates twice, if it is a double negation. -/
def doublyNegated? (φ : Formula) : Except Misuse (Option Formula) :=
  if φ.connective ≠ .negation then .ok none
  else do
    let negated ← Misuse.need φ.operand
    if negated.connective ≠ .negation then .ok none
    else do
      let inner ← Misuse.need negated.operand
      .ok (some inner)

/-- The premise must be a double negation, and the conclusion what it negates twice. -/
def diagnose (conclusion premise : Formula) : Except Misuse (Option Diagnostic) := do
  match ← doublyNegated? premise with
  | none => .ok (some (.notDoubleNegation premise))
  | some inner => .ok (if inner ≠ conclusion then some (.wrongConclusion inner conclusion) else none)

/-- Proposes what is negated twice. -/
def advise (premise : Formula) : Except Misuse (Option (List Formula)) := do
  let inner ← doublyNegated? premise
  .ok (inner.map ([·]))

/-- `A` from `¬¬A`. -/
def rule : Rule where
  name := "Double Negation (¬¬ Elim)"
  shortName := "¬¬ Elim"
  kind := .elimination
  premiseCount _ := 1
  subproofCount _ := 0
  reorderable := false
  check := Check.ofOne diagnose
  advisor := some (Advisor.ofOne advise)

end DoubleNegation

namespace Reiteration

/-- The conclusion must be the premise. -/
def diagnose (conclusion premise : Formula) : Option Diagnostic :=
  if premise ≠ conclusion then some (.notReiterated conclusion premise) else none

/-- `A` from `A`. -/
def rule : Rule where
  name := "Reiteration"
  shortName := "Reit"
  kind := .inference
  premiseCount _ := 1
  subproofCount _ := 0
  reorderable := false
  check := Check.ofOne fun c φ => .ok (diagnose c φ)
  advisor := some (Advisor.ofOne fun φ => .ok (some [φ]))

end Reiteration

end NaturalDeduction
