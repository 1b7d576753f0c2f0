import NaturalDeduction.Formula.DoubleNegation
import NaturalDeduction.Formula.Flatten
import NaturalDeduction.Rule.Basic

/-!
# Introducing and eliminating conjunctions

`Conjunction.rule` draws `A ∧ B` from `A` and `B`; it compares the premises and the conjuncts as
sets, strictly. `Simplification.rule` draws a conjunct, or a conjunction of conjuncts, from a
conjunction; nested conjunctions count as one, and everything is compared up to double negation.
-/

namespace NaturalDeduction

namespace Conjunction

/-- One premise for each conjunct of the conclusion. -/
def premiseCount (s : Step) : Nat :=
  match s.conclusion with
  | .conj conjuncts => conjuncts.length
  | _ => 2

/-- Every premise must be a conjunct, and every conjunct must be a premise. -/
def diagnose (conclusion : Formula) (premises : List Formula) : Option Diagnostic :=
  match conclusion with
  | .conj conjuncts =>
    ((premises.find? (· ∉ conjuncts)).map (.notConjunctOfConclusion · conclusion)).orElse fun _ =>
      (conjuncts.find? (· ∉ premises)).map .absentFormula
  | _ => some (.wrongForm Shape.conjunction.text)

/-- Proposes the conjunction of two or more plain premises. -/
def advise : Advisor := fun ps =>
  match Advisor.plainFormulas? ps with
  | some φs =>
    if φs.length < 2 then .ok none
    else do
      let conjunction ← Misuse.join .conj φs
      .ok (some [conjunction])
  | none => .ok none

/-- `A ∧ B` from `A` and `B`. -/
def rule : Rule where
  name := "Conjunction (∧ Intro)"
  shortName := "∧ Intro"
  kind := .introduction
  premiseCount := premiseCount
  subproofCount _ := 0
  reorderable := true
  check s := .ok (diagnose s.conclusion (s.premises.map Premise.formula))
  advisor := some advise

end Conjunction

namespace Simplification

/-- Whether a formula agrees with one of the conjuncts. -/
def isConjunct (conjuncts : List Formula) (φ : Formula) : Bool := conjuncts.any (·.agrees φ)

/-- The conclusion must be the premise, a conjunct of it, or a conjunction of its conjuncts. -/
def diagnose (conclusion premise : Formula) : Option Diagnostic :=
  match premise with
  | .conj _ =>
    let conjuncts := premise.flatten.operands
    if conclusion.agrees premise || isConjunct conjuncts conclusion then none
    else match conclusion with
      | .conj _ =>
        (conclusion.flatten.operands.find? (!isConjunct conjuncts ·)).map .partNotInPremise
      | _ => some (.notConjunctOfPremise conclusion premise)
  | _ => some (.notConjunction premise)

/-- Proposes each conjunct. -/
def advise (premise : Formula) : Option (List Formula) :=
  match premise with
  | .conj _ => some premise.flatten.operands
  | _ => none

/-- `A` from `A ∧ B`. -/
def rule : Rule where
  name := "Simplification (∧ Elim)"
  shortName := "∧ Elim"
  kind := .elimination
  premiseCount _ := 1
  subproofCount _ := 0
  reorderable := false
  check := Check.ofOne fun c φ => .ok (diagnose c φ)
  advisor := some (Advisor.ofOne fun φ => .ok (advise φ))

end Simplification

end NaturalDeduction
