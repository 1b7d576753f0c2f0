import NaturalDeduction.Premise

/-!
# Diagnostics

Why an inference step is rejected. Each cause is a constructor that keeps the formulas it is about;
`Diagnostic.message` is the one place where causes are put into words.

Where a rule tries several arrangements of the premises, the distinct reasons are listed together,
in the order of their texts. `Diagnostic.anyOf` builds that list from the texts alone.
-/

namespace NaturalDeduction

/-- The shapes that a missing premise or a wrong conclusion is described by. -/
inductive Shape
  | implication
  | conjunction
  | disjunction
  | biconditional
  deriving DecidableEq, Repr

/-- A shape in writing. -/
def Shape.text : Shape → String
  | implication => "_ → _"
  | conjunction => "_ ∧ _"
  | disjunction => "_ ∨ _"
  | biconditional => "_ ↔ _"

/-- Why a step is rejected. -/
inductive Diagnostic
  /-- A reason given in words. -/
  | stated (text : String)
  /-- A premise with this text is not among the premises. -/
  | absent (what : String)
  /-- No premise has the shape. -/
  | absentShape (shape : String)
  /-- The conclusion has not got the shape. -/
  | wrongForm (shape : String)
  /-- One of these distinct reasons, in order. -/
  | oneOf (reasons : List String)
  /-- The rule takes another number of premises. -/
  | premiseCount (rule : String) (expected provided : Nat)
  /-- The premise at this position, from one on, must not be a subproof. -/
  | plainExpected (position : Nat)
  /-- The premise at this position, from one on, must be a subproof. -/
  | subproofExpected (position : Nat)
  | notConjunctOfConclusion (premise conclusion : Formula)
  | notConjunction (premise : Formula)
  | notConjunctOfPremise (conclusion premise : Formula)
  | partNotInPremise (part : Formula)
  | premisesNotImplications
  | conclusionNotImplication
  | unchained (first second : Formula)
  | wrongChainStart (expected actual : Formula)
  | wrongChainEnd (expected actual : Formula)
  | notAntecedent (other implication : Formula)
  | notConsequent (conclusion implication : Formula)
  | notNegatedConsequent (other implication : Formula)
  | notNegatedAntecedent (conclusion implication : Formula)
  | notDisjunctOfConclusion (premise conclusion : Formula)
  | notNegatedDisjunct (negation disjunction : Formula)
  | notRemainder (conclusion : Formula) (remainders : List Formula)
  | notDoubleNegation (premise : Formula)
  | wrongConclusion (expected actual : Formula)
  | notReiterated (conclusion premise : Formula)
  | oneAssumption (found : Nat)
  | antecedentNotAssumed (antecedent assumption : Formula)
  | consequentNotConcluded (consequent conclusion : Formula)
  | notImplication (premise : Formula)
  | neitherDirection (premise forward backward : Formula)
  | notSide (other biconditional : Formula)
  | caseAssumptions (case : Premise) (found : Nat)
  | assumptionNotDisjunct (assumption disjunction : Formula)
  | caseConclusion (case : Premise) (expected : Formula)
  | uncoveredCase (disjunct : Formula)
  deriving DecidableEq

namespace Diagnostic

/-- The words of a diagnostic. -/
def message : Diagnostic → String
  | stated text => text
  | absent what => s!"{what} is required as a premise, but it does not exist."
  | absentShape shape =>
    s!"Something of the shape {shape} is required as a premise, but it does not exist."
  | wrongForm shape => s!"The conclusion is of the wrong form, expected {shape}."
  | oneOf reasons =>
    "One of the following requirements was not met:\n" ++ "\n".intercalate reasons
  | premiseCount rule expected provided =>
    let amount := if expected < provided then "many" else "few"
    s!"Too {amount} premises for {rule} (expected: {expected}, provided: {provided})."
  | plainExpected position => s!"Premise {position} must be a plain expression, not a subproof."
  | subproofExpected position => s!"Premise {position} must be a subproof."
  | notConjunctOfConclusion premise conclusion =>
    s!"The premise {premise.text} is not a conjunct of the conclusion {conclusion.text}."
  | notConjunction premise => s!"The premise {premise.text} is not a conjunction."
  | notConjunctOfPremise conclusion premise =>
    s!"The conclusion {conclusion.text} is not a conjunct in the premise {premise.text}."
  | partNotInPremise part =>
    "The conclusion is not a conjunct in the premise and contains \"" ++ part.text ++
      "\" which is not present in the premise."
  | premisesNotImplications => "Both premises must be implications."
  | conclusionNotImplication => "The conclusion must be an implication."
  | unchained first second =>
    "Invalid application of Hypothetical Syllogism: the consequent of neither " ++
      s!"{first.text} nor {second.text} is the antecedent of the other."
  | wrongChainStart expected actual =>
    "Invalid application of Hypothetical Syllogism: the antecedent of the conclusion should be " ++
      s!"{expected.text}, not {actual.text}."
  | wrongChainEnd expected actual =>
    "Invalid application of Hypothetical Syllogism: the consequent of the conclusion should be " ++
      s!"{expected.text}, not {actual.text}."
  | notAntecedent other implication =>
    s!"The premise {other.text} does not match the antecedent of {implication.text}."
  | notConsequent conclusion implication =>
    s!"The conclusion {conclusion.text} does not match the consequent of {implication.text}."
  | notNegatedConsequent other implication =>
    s!"The premise {other.text} is not the negation of the consequent of {implication.text}."
  | notNegatedAntecedent conclusion implication =>
    s!"The conclusion {conclusion.text} is not the negation of the antecedent of " ++
      s!"{implication.text}."
  | notDisjunctOfConclusion premise conclusion =>
    s!"The premise {premise.text} is not a disjunct of the conclusion {conclusion.text}."
  | notNegatedDisjunct negation disjunction =>
    s!"The premise {negation.text} is not the negation of any disjunct of {disjunction.text}."
  | notRemainder conclusion remainders =>
    s!"The conclusion {conclusion.text} does not match the remaining disjuncts " ++
      " or ".intercalate (remainders.map Formula.text) ++ "."
  | notDoubleNegation premise => s!"The premise {premise.text} is not a double negation."
  | wrongConclusion expected actual =>
    s!"The conclusion should be {expected.text}, not {actual.text}."
  | notReiterated conclusion premise =>
    s!"{conclusion.text} is not the same as the premise {premise.text}."
  | oneAssumption found => s!"The subproof must have exactly one assumption (found {found})."
  | antecedentNotAssumed antecedent assumption =>
    s!"The antecedent {antecedent.text} is not the assumption of the subproof, " ++
      s!"{assumption.text}."
  | consequentNotConcluded consequent conclusion =>
    s!"The consequent {consequent.text} is not the conclusion of the subproof, " ++
      s!"{conclusion.text}."
  | notImplication premise => s!"The premise {premise.text} is not an implication."
  | neitherDirection premise forward backward =>
    s!"The premise {premise.text} is neither {forward.text} nor {backward.text}."
  | notSide other biconditional =>
    s!"The premise {other.text} is not a side of {biconditional.text}."
  | caseAssumptions case found =>
    s!"The subproof {case.text} must have exactly one assumption (found {found})."
  | assumptionNotDisjunct assumption disjunction =>
    s!"The assumption {assumption.text} is not a disjunct of {disjunction.text}."
  | caseConclusion case expected =>
    s!"The subproof {case.text} concludes {case.formula.text}, not {expected.text}."
  | uncoveredCase disjunct => s!"The case {disjunct.text} is not covered by any subproof."

/-- A premise of exactly this formula is missing. -/
def absentFormula (φ : Formula) : Diagnostic := absent φ.text

/-- Distinct texts in the order of their code points. -/
def distinctSorted (texts : List String) : List String :=
  texts.eraseDups.mergeSort fun s t => decide (s ≤ t)

/-- One of several reasons, whichever it is. -/
def anyOf (reasons : List Diagnostic) : Diagnostic :=
  oneOf (distinctSorted (reasons.map message))

end Diagnostic

end NaturalDeduction
