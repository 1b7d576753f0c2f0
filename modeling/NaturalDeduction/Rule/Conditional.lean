import NaturalDeduction.Formula.DoubleNegation
import NaturalDeduction.Rule.Basic

/-!
# Rules for conditionals

Chaining two implications, detaching the consequent of one, denying its antecedent, and introducing
one by a subproof. Modus tollens compares up to double negation; the others compare strictly.
-/

namespace NaturalDeduction

namespace HypotheticalSyllogism

/-- The implications must chain, in the order given or else in the other, and the conclusion must
lead from the start of the chain to its end. -/
def diagnose (conclusion first second : Formula) : Except Misuse (Option Diagnostic) :=
  if first.connective ≠ .conditional ∨ second.connective ≠ .conditional then
    .ok (some .premisesNotImplications)
  else if conclusion.connective ≠ .conditional then .ok (some .conclusionNotImplication)
  else do
    let (a, b) ← Misuse.sides first
    let (c, d) ← Misuse.sides second
    let (start, finish) ← Misuse.sides conclusion
    let (a, b, c, d) := if b ≠ c ∧ d = a then (c, d, a, b) else (a, b, c, d)
    .ok <|
      if b ≠ c then some (.unchained (.imp a b) (.imp c d))
      else if start ≠ a then some (.wrongChainStart a start)
      else if finish ≠ d then some (.wrongChainEnd d finish)
      else none

/-- The implication that two implications amount to, if they chain. -/
def chain? (first second : Formula) : Except Misuse (Option Formula) := do
  let (a, b) ← Misuse.sides first
  let (c, d) ← Misuse.sides second
  .ok (if b = c then some (.imp a d) else none)

/-- Proposes what two implications amount to, in both orders. -/
def advise : Advisor :=
  Advisor.ofTwo fun φ ψ =>
    if φ.connective ≠ .conditional ∨ ψ.connective ≠ .conditional then .ok none
    else Advisor.bothOrders chain? φ ψ

/-- `A → C` from `A → B` and `B → C`. -/
def rule : Rule where
  name := "Hypothetical Syllogism"
  shortName := "HS"
  kind := .inference
  premiseCount _ := 2
  subproofCount _ := 0
  reorderable := true
  check := Check.ofTwo diagnose
  advisor := some advise

end HypotheticalSyllogism

namespace ModusPonens

/-- The other premise must be the antecedent and the conclusion the consequent. -/
def outcome (conclusion implication other : Formula) : Except Misuse Outcome :=
  if implication.connective ≠ .conditional then .ok .wrongOrder
  else do
    let (a, b) ← Misuse.sides implication
    .ok <|
      if a ≠ other then .rejected (.notAntecedent other implication)
      else if b ≠ conclusion then .rejected (.notConsequent conclusion implication)
      else .valid

/-- The consequent, when the other premise is the antecedent. -/
def detach? (implication other : Formula) : Except Misuse (Option Formula) :=
  if implication.connective ≠ .conditional then .ok none
  else do
    let (a, b) ← Misuse.sides implication
    .ok (if a = other then some b else none)

/-- `B` from `A → B` and `A`. -/
def rule : Rule where
  name := "Modus Ponens (→ Elim)"
  shortName := "MP"
  kind := .elimination
  premiseCount _ := 2
  subproofCount _ := 0
  reorderable := true
  check := Check.inEitherOrder outcome .implication
  advisor := some (Advisor.inEitherOrder detach?)

end ModusPonens

namespace ModusTollens

/-- The other premise must agree with the negated consequent, and the conclusion with the negated
antecedent. -/
def outcome (conclusion implication other : Formula) : Except Misuse Outcome :=
  if implication.connective ≠ .conditional then .ok .wrongOrder
  else do
    let (a, b) ← Misuse.sides implication
    .ok <|
      if !(Formula.neg b).agrees other then .rejected (.notNegatedConsequent other implication)
      else if !(Formula.neg a).agrees conclusion then
        .rejected (.notNegatedAntecedent conclusion implication)
      else .valid

/-- The negated antecedent, when the other premise agrees with the negated consequent. -/
def deny? (implication other : Formula) : Except Misuse (Option Formula) :=
  if implication.connective ≠ .conditional then .ok none
  else do
    let (a, b) ← Misuse.sides implication
    .ok (if (Formula.neg b).agrees other then some (.neg a) else none)

/-- `¬A` from `A → B` and `¬B`. -/
def rule : Rule where
  name := "Modus Tollens"
  shortName := "MT"
  kind := .inference
  premiseCount _ := 2
  subproofCount _ := 0
  reorderable := true
  check := Check.inEitherOrder outcome .implication
  advisor := some (Advisor.inEitherOrder deny?)

end ModusTollens

namespace ConditionalProof

/-- The conclusion must lead from the only assumption of the subproof to its conclusion. -/
def diagnose (conclusion : Formula) (subproof : Premise) : Except Misuse (Option Diagnostic) := do
  let assumptions ← Misuse.assumptions subproof
  if assumptions.length ≠ 1 then .ok (some (.oneAssumption assumptions.length))
  else if conclusion.connective ≠ .conditional then
    .ok (some (.wrongForm Shape.implication.text))
  else
    let assumption ← Misuse.firstAssumption subproof
    let (a, b) ← Misuse.sides conclusion
    .ok <|
      if a ≠ assumption then some (.antecedentNotAssumed a assumption)
      else if b ≠ subproof.formula then some (.consequentNotConcluded b subproof.formula)
      else none

/-- Checks the conclusion against the one subproof. -/
def check : Check := fun s =>
  match s.premises with
  | [subproof] => diagnose s.conclusion subproof
  | ps => .error (.premiseCount ps.length)

/-- Proposes the implication from the only assumption to what the subproof concludes. -/
def advise : Advisor := fun ps =>
  match ps with
  | [subproof] =>
    if subproof.isSubproof then do
      let assumptions ← Misuse.assumptions subproof
      if assumptions.length ≠ 1 then .ok none
      else
        let assumption ← Misuse.firstAssumption subproof
        .ok (some [.imp assumption subproof.formula])
    else .ok none
  | _ => .ok none

/-- `A → B` from a subproof that assumes `A` and concludes `B`. -/
def rule : Rule where
  name := "Conditional Proof (→ Intro)"
  shortName := "→ Intro"
  kind := .introduction
  premiseCount _ := 1
  subproofCount _ := 1
  reorderable := false
  check := check
  advisor := some advise

end ConditionalProof

end NaturalDeduction
