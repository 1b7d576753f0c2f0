import NaturalDeduction.Formula.DoubleNegation
import NaturalDeduction.Formula.Flatten
import NaturalDeduction.Rule.Basic

/-!
# Rules for disjunctions

Introducing a disjunction by one of its disjuncts, eliminating one disjunct by its negation, and
eliminating a disjunction by cases. Nested disjunctions count as one. The disjunctive syllogism
compares up to double negation; the others compare strictly.
-/

namespace NaturalDeduction

namespace Addition

/-- The premise must be a disjunct of the conclusion, as it stands or flattened. -/
def diagnose (conclusion premise : Formula) : Option Diagnostic :=
  match conclusion with
  | .disj disjuncts =>
    if premise ∈ disjuncts ∨ premise ∈ conclusion.flatten.operands then none
    else some (.notDisjunctOfConclusion premise conclusion)
  | _ => some (.wrongForm Shape.disjunction.text)

/-- `A ∨ B` from `A`. -/
def rule : Rule where
  name := "Addition (∨ Intro)"
  shortName := "∨ Intro"
  kind := .introduction
  premiseCount _ := 1
  subproofCount _ := 0
  reorderable := false
  check := Check.ofOne fun c φ => .ok (diagnose c φ)
  advisor := none

end Addition

namespace DisjunctiveSyllogism

/-- What several disjuncts amount to: the only one, or their disjunction. -/
def remainder : List Formula → Except Misuse Formula
  | [φ] => .ok φ
  | φs => Misuse.join .disj φs

/-- The disjuncts that are left when one that the negation denies is taken out, for each such
disjunct in turn. -/
def remainders (disjunction negation : Formula) : Except Misuse (List Formula) :=
  ((picks disjunction.flatten.operands).filter fun (disjunct, _) =>
    (Formula.neg disjunct).agrees negation).mapM fun (_, rest) => remainder rest

/-- The other premise must deny a disjunct, and the conclusion must agree with what is left. -/
def outcome (conclusion disjunction negation : Formula) : Except Misuse Outcome :=
  match disjunction with
  | .disj _ => do
    let found ← remainders disjunction negation
    if found.any (·.agrees conclusion.flatten) then .ok .valid
    else if found.isEmpty then .ok (.rejected (.notNegatedDisjunct negation disjunction))
    else .ok (.rejected (.notRemainder conclusion found))
  | _ => .ok .wrongOrder

/-- What is left of the disjunction for each disjunct that the negation denies. -/
def resolve (disjunction negation : Formula) : Except Misuse (List Formula) :=
  match disjunction with
  | .disj _ => remainders disjunction negation
  | _ => .ok []

/-- Proposes everything that is left, in both orders of the premises. -/
def advise (φ ψ : Formula) : Except Misuse (Option (List Formula)) := do
  let left ← resolve φ ψ
  let right ← resolve ψ φ
  .ok (Advisor.unlessEmpty (left ++ right))

/-- `B` from `A ∨ B` and `¬A`. -/
def rule : Rule where
  name := "Disjunctive Syllogism"
  shortName := "DS"
  kind := .inference
  premiseCount _ := 2
  subproofCount _ := 0
  reorderable := true
  check := Check.inEitherOrder outcome .disjunction
  advisor := some (Advisor.ofTwo advise)

end DisjunctiveSyllogism

namespace CaseAnalysis

/-- One subproof for each disjunct of the first premise. -/
def caseCount (s : Step) : Nat :=
  match s.premises with
  | .plain (.disj disjuncts) :: _ => (Formula.disj disjuncts).flatten.operands.length
  | _ => 2

/-- What is wrong with a case, if anything is: its only assumption must be a disjunct and lead to
the conclusion. -/
def misfit? (conclusion disjunction : Formula) (case : Premise) :
    Except Misuse (Option Diagnostic) := do
  let assumptions ← Misuse.assumptions case
  if assumptions.length ≠ 1 then .ok (some (.caseAssumptions case assumptions.length))
  else
    let assumption ← Misuse.firstAssumption case
    .ok <|
      if assumption ∉ disjunction.flatten.operands then
        some (.assumptionNotDisjunct assumption disjunction)
      else if case.formula ≠ conclusion then some (.caseConclusion case conclusion)
      else none

/-- Every case must be sound, and every disjunct must be the assumption of some case. -/
def diagnose (conclusion disjunction : Formula) (cases : List Premise) :
    Except Misuse (Option Diagnostic) :=
  if disjunction.connective ≠ .disjunction then
    .ok (some (.absentShape Shape.disjunction.text))
  else do
    match ← cases.findSomeM? (misfit? conclusion disjunction) with
    | some why => .ok (some why)
    | none =>
      let assumed ← cases.mapM Misuse.firstAssumption
      .ok ((disjunction.flatten.operands.find? (· ∉ assumed)).map .uncoveredCase)

/-- Checks the conclusion against a disjunction, which comes first, and its cases. -/
def check : Check := fun s =>
  match s.premises with
  | [] => .error (.premiseCount 0)
  | first :: cases => diagnose s.conclusion first.formula cases

/-- Proposes what all of at least two cases conclude, when they conclude the same. -/
def advise : Advisor := fun ps =>
  .ok <| match ps with
    | .plain (.disj _) :: first :: second :: rest =>
      let cases := first :: second :: rest
      if cases.all fun c => c.isSubproof && c.formula = first.formula then some [first.formula]
      else none
    | _ => none

/-- `C` from `A ∨ B`, a subproof of `C` from `A` and a subproof of `C` from `B`. -/
def rule : Rule where
  name := "Disjunction Elimination (∨ Elim)"
  shortName := "∨ Elim"
  kind := .elimination
  premiseCount s := 1 + caseCount s
  subproofCount := caseCount
  reorderable := false
  check := check
  advisor := some advise

end CaseAnalysis

end NaturalDeduction
