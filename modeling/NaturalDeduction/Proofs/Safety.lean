import NaturalDeduction.Proofs.Rule.Biconditional
import NaturalDeduction.Proofs.Rule.Conditional
import NaturalDeduction.Proofs.Rule.Conjunction
import NaturalDeduction.Proofs.Rule.Disjunction
import NaturalDeduction.Proofs.Rule.Structural
import NaturalDeduction.Proofs.Suggestions
import NaturalDeduction.Proofs.Verifier

/-!
# No rule is ever at a loss

On well-formed premises, whatever their number and kinds, every rule of the catalogue gives a
verdict, every rejection is put into words, and every advisor either has nothing to propose or
proposes well-formed formulas. The shape of a step is what a check relies on; flattening and
reduction never put together a node that would be refused.
-/

namespace NaturalDeduction

variable {c : Formula} {ps : List Premise}

namespace RuleId

/-- Every check answers the steps of its shape. -/
theorem answers (id : RuleId) (wf : ∀ p ∈ ps, p.WellFormed)
    (shape : id.rule.shapeDiagnostic? ⟨c, ps⟩ = none) : Answers (id.rule.check ⟨c, ps⟩) := by
  cases id with
  | conjunction => exact Conjunction.answers
  | simplification => exact Simplification.answers shape
  | hypotheticalSyllogism => exact HypotheticalSyllogism.answers shape
  | modusPonens => exact ModusPonens.answers shape
  | modusTollens => exact ModusTollens.answers shape
  | addition => exact Addition.answers shape
  | disjunctiveSyllogism => exact DisjunctiveSyllogism.answers wf shape
  | doubleNegation => exact DoubleNegation.answers shape
  | reiteration => exact Reiteration.answers shape
  | conditionalProof => exact ConditionalProof.answers shape
  | biconditionalIntroduction => exact BiconditionalIntroduction.answers
  | biconditionalElimination => exact BiconditionalElimination.answers shape
  | disjunctionElimination => exact CaseAnalysis.answers shape

/-- Every rule gives a verdict, and rejects for a cause that the library has words for. -/
theorem exists_judge (id : RuleId) (c : Formula) (wf : ∀ p ∈ ps, p.WellFormed) :
    ∃ verdict, Verifier.judge id.rule ⟨c, ps⟩ = .ok verdict ∧
      ∀ why, verdict.diagnostic? = some why → why.IsCause :=
  Rule.judge_answers (id.answers wf)

/-- Every rule proposes well-formed formulas, or nothing. -/
theorem advises (id : RuleId) (wf : ∀ p ∈ ps, p.WellFormed) : Advises (id.rule.propose ps) := by
  cases id with
  | conjunction => exact Conjunction.advises wf
  | simplification => exact Simplification.advises wf
  | hypotheticalSyllogism => exact HypotheticalSyllogism.advises wf
  | modusPonens => exact ModusPonens.advises wf
  | modusTollens => exact ModusTollens.advises wf
  | addition => exact .none
  | disjunctiveSyllogism => exact DisjunctiveSyllogism.advises wf
  | doubleNegation => exact DoubleNegation.advises wf
  | reiteration => exact Reiteration.advises wf
  | conditionalProof => exact ConditionalProof.advises wf
  | biconditionalIntroduction => exact BiconditionalIntroduction.advises wf
  | biconditionalElimination => exact BiconditionalElimination.advises wf
  | disjunctionElimination => exact CaseAnalysis.advises wf

end RuleId

/-- On well-formed premises, a claim by any rule gets a result that says why exactly when it is not
valid, and says so in words; the rule's proposals, if it makes any, are well formed and come to an
end however many are asked for; and no node is refused when well-formed formulas are flattened or
reduced. -/
theorem Verifier.verify_propose_safe (v : Verifier) (claim : Claim) (id : RuleId)
    (found : claim.rule.resolve? = some id) (wf : ∀ p ∈ claim.premises, p.WellFormed) :
    (∃ verdict, (v.verify claim).outcome = .ok ⟨id, verdict⟩ ∧
      (verdict.isValid = true ↔ verdict.diagnostic? = none) ∧
      ∀ why, verdict.diagnostic? = some why → why.message ≠ "") ∧
    (∃ proposal, id.rule.propose claim.premises = .ok proposal ∧
      ∀ φs, proposal = some φs → (∀ φ ∈ φs, φ.WellFormed) ∧
        ∀ left, (Suggestions.take φs.length { pending := φs, left }).2.next? = none) ∧
    ∀ φ : Formula, φ.WellFormed →
      φ.flattenAnew = .ok φ.flatten ∧ φ.reduceAnew = .ok φ.reduce := by
  refine ⟨?_, ?_, fun φ wfφ => ⟨Formula.flattenAnew_eq_ok wfφ, Formula.reduceAnew_eq_ok wfφ⟩⟩
  · obtain ⟨verdict, judged, causes⟩ := id.exists_judge claim.conclusion wf
    refine ⟨verdict, ?_, verdict.isValid_iff_diagnostic?_eq_none, fun why given => ?_⟩
    · rw [verify_eq_verifyBy found, verifyBy_outcome_eq_ok_iff]
      exact ⟨rfl, judged⟩
    · exact Diagnostic.message_ne_empty (causes why given)
  · obtain ⟨proposal, proposed, each⟩ := id.advises wf
    refine ⟨proposal, proposed, fun φs some => ⟨each φs some, fun left => ?_⟩⟩
    exact Suggestions.next?_take_eq_none (Nat.le_refl _)

/-- A proof by cases one of whose cases has no assumption, and the other two, is rejected in
words. -/
theorem Verifier.verify_propose_safe_of_bad_cases :
    ∃ verdict, (Verifier.verify {}
        { conclusion := .atom "R"
          premises := [.plain (.disj [.atom "P", .atom "Q"]), .subproof [] (.atom "R"),
            .subproof [.atom "P", .atom "Q"] (.atom "R")]
          rule := .known .disjunctionElimination }).outcome =
        .ok ⟨.disjunctionElimination, verdict⟩ ∧
      (verdict.isValid = true ↔ verdict.diagnostic? = none) ∧
      ∀ why, verdict.diagnostic? = some why → why.message ≠ "" :=
  (verify_propose_safe {} _ .disjunctionElimination rfl (by decide)).1

end NaturalDeduction
