import NaturalDeduction.Rule.Basic

/-!
# Introducing and eliminating biconditionals

Both rules compare strictly.
-/

namespace NaturalDeduction

namespace BiconditionalIntroduction

/-- What is wrong with a premise that should be one of two implications, if anything is. -/
def misfit? (forward backward φ : Formula) : Option Diagnostic :=
  if φ.connective ≠ .conditional then some (.notImplication φ)
  else if φ = forward ∨ φ = backward then none
  else some (.neitherDirection φ forward backward)

/-- Every premise must be one of the two directions, and both directions must be premises. -/
def diagnose (conclusion : Formula) (premises : List Formula) :
    Except Misuse (Option Diagnostic) :=
  if conclusion.connective ≠ .biconditional then
    .ok (some (.wrongForm Shape.biconditional.text))
  else do
    let (l, r) ← Misuse.bothOperands conclusion
    .ok ((premises.findSome? (misfit? (.imp l r) (.imp r l))).orElse fun _ =>
      ([Formula.imp l r, .imp r l].find? (· ∉ premises)).map .absentFormula)

/-- Proposes both biconditionals when the two premises are converses of each other. -/
def advise (φ ψ : Formula) : Except Misuse (Option (List Formula)) :=
  if φ.connective ≠ .conditional ∨ ψ.connective ≠ .conditional then .ok none
  else do
    let (a, b) ← Misuse.sides φ
    let (c, d) ← Misuse.sides ψ
    .ok (if a ≠ d ∨ b ≠ c then none else some [.iff a b, .iff b a])

/-- `A ↔ B` from `A → B` and `B → A`. -/
def rule : Rule where
  name := "Biconditional Introduction (↔ Intro)"
  shortName := "↔ Intro"
  kind := .introduction
  premiseCount _ := 2
  subproofCount _ := 0
  reorderable := true
  check s := diagnose s.conclusion (s.premises.map Premise.formula)
  advisor := some (Advisor.ofTwo advise)

end BiconditionalIntroduction

namespace BiconditionalElimination

/-- The side of a biconditional across from a formula. -/
def opposite? (biconditional other : Formula) : Except Misuse (Option Formula) :=
  if biconditional.connective ≠ .biconditional then .ok none
  else do
    let (l, r) ← Misuse.bothOperands biconditional
    .ok (if other = l then some r else if other = r then some l else none)

/-- The other premise must be a side, and the conclusion the side across from it. -/
def outcome (conclusion biconditional other : Formula) : Except Misuse Outcome :=
  if biconditional.connective ≠ .biconditional then .ok .wrongOrder
  else do
    match ← opposite? biconditional other with
    | none => .ok (.rejected (.notSide other biconditional))
    | some expected =>
      .ok (if conclusion ≠ expected then .rejected (.wrongConclusion expected conclusion)
        else .valid)

/-- `B` from `A ↔ B` and `A`, and `A` from `A ↔ B` and `B`. -/
def rule : Rule where
  name := "Biconditional Elimination (↔ Elim)"
  shortName := "↔ Elim"
  kind := .elimination
  premiseCount _ := 2
  subproofCount _ := 0
  reorderable := true
  check := Check.inEitherOrder outcome .biconditional
  advisor := some (Advisor.inEitherOrder opposite?)

end BiconditionalElimination

end NaturalDeduction
