import NaturalDeduction.Proofs.Rule.Biconditional
import NaturalDeduction.Proofs.Rule.Conditional
import NaturalDeduction.Proofs.Rule.Conjunction
import NaturalDeduction.Proofs.Rule.Disjunction
import NaturalDeduction.Proofs.Rule.Structural
import NaturalDeduction.Proofs.Verifier

/-!
# Checks and advisors agree

A check and the advisor of the same rule are written apart from each other. For most rules they
leave each other nothing: what the one accepts the other proposes, strictly or up to the laxity of
the check. The two rules for conjunctions accept more than they propose.
-/

namespace NaturalDeduction

variable {c χ : Formula} {ps : List Premise}

theorem Formula.agrees_comm (φ ψ : Formula) : φ.agrees ψ = ψ.agrees φ := by
  rw [Bool.eq_iff_iff, agrees_iff, agrees_iff]
  exact eq_comm

namespace RuleId

/-- The rules whose conclusion is determined strictly by the premises. -/
def IsStrict (id : RuleId) : Prop :=
  id ∈ [modusPonens, biconditionalIntroduction, biconditionalElimination, doubleNegation,
    reiteration, conditionalProof]

/-- A strict rule accepts what it proposes, and nothing else. -/
theorem accepts_iff_proposes {id : RuleId} (strict : id.IsStrict) :
    id.rule.Accepts c ps ↔ id.rule.Proposes ps c := by
  simp only [IsStrict, List.mem_cons, List.not_mem_nil, or_false] at strict
  rcases strict with rfl | rfl | rfl | rfl | rfl | rfl
  · exact ModusPonens.accepts_iff.trans ModusPonens.proposes_iff.symm
  · exact BiconditionalIntroduction.accepts_iff.trans BiconditionalIntroduction.proposes_iff.symm
  · exact BiconditionalElimination.accepts_iff.trans BiconditionalElimination.proposes_iff.symm
  · exact DoubleNegation.accepts_iff.trans DoubleNegation.proposes_iff.symm
  · exact Reiteration.accepts_iff.trans Reiteration.proposes_iff.symm
  · exact ConditionalProof.accepts_iff.trans ConditionalProof.proposes_iff.symm

end RuleId

/-- What comes of some order of two premises, up to what the check lets pass. -/
theorem exists_inEitherOrder_comm {P : Formula → Formula → Formula → Prop} {d : Formula} :
    (∃ φ ψ, InEitherOrder ps φ ψ ∧ ∃ χ, P φ ψ χ ∧ χ.agrees d = true) ↔
      ∃ χ, (∃ φ ψ, InEitherOrder ps φ ψ ∧ P φ ψ χ) ∧ d.agrees χ = true := by
  constructor
  · intro h
    obtain ⟨φ, ψ, pair, χ, drawn, agrees⟩ := h
    exact ⟨χ, ⟨φ, ψ, pair, drawn⟩, (Formula.agrees_comm d χ).trans agrees⟩
  · intro h
    obtain ⟨χ, ⟨φ, ψ, pair, drawn⟩, agrees⟩ := h
    exact ⟨φ, ψ, pair, χ, drawn, (Formula.agrees_comm χ d).trans agrees⟩

/-- What is accepted agrees with a proposal. -/
theorem ModusTollens.accepts_iff_exists_proposes :
    rule.Accepts c ps ↔ ∃ χ, rule.Proposes ps χ ∧ c.agrees χ = true := by
  simp only [proposes_iff]
  exact accepts_iff.trans exists_inEitherOrder_comm

/-- What is accepted agrees with a proposal once it is flattened. -/
theorem DisjunctiveSyllogism.accepts_iff_exists_proposes (wf : ∀ p ∈ ps, p.WellFormed) :
    rule.Accepts c ps ↔ ∃ χ, rule.Proposes ps χ ∧ c.flatten.agrees χ = true := by
  simp only [proposes_iff wf]
  exact (accepts_iff wf).trans exists_inEitherOrder_comm

/-- The conjunction that is proposed is accepted. -/
theorem Conjunction.accepts_of_proposes (h : rule.Proposes ps χ) : rule.Accepts χ ps := by
  obtain ⟨φs, rfl, -, rfl⟩ := proposes_iff.mp h
  exact accepts_iff.mpr ⟨φs, φs, rfl, rfl, rfl, fun _ => Iff.rfl⟩

/-- Every conjunct that is proposed is accepted. -/
theorem Simplification.accepts_of_proposes (h : rule.Proposes ps χ) : rule.Accepts χ ps := by
  obtain ⟨φs, rfl, mem⟩ := proposes_iff.mp h
  have conjunct : isConjunct (Formula.conj φs).flatten.operands χ = true :=
    isConjunct_iff.mpr ⟨χ, mem, Formula.agrees_iff.mpr rfl⟩
  exact accepts_iff.mpr ⟨φs, rfl, .inr (.inl conjunct)⟩

/-- The verifier and the advisors agree, on premises of any number and of any kinds: a strict rule
accepts what it proposes; modus tollens accepts that up to double negation; the disjunctive
syllogism flattens the conclusion first; and the rules for conjunctions accept all that they
propose. -/
theorem Verifier.accepts_agrees_with_proposes (v : Verifier) (c : Formula) (ps : List Premise) :
    (∀ id : RuleId, id.IsStrict → (v.Accepts id c ps ↔ id.rule.Proposes ps c)) ∧
    (v.Accepts .modusTollens c ps ↔
      ∃ χ, RuleId.modusTollens.rule.Proposes ps χ ∧ c.agrees χ = true) ∧
    ((∀ p ∈ ps, p.WellFormed) → (v.Accepts .disjunctiveSyllogism c ps ↔
      ∃ χ, RuleId.disjunctiveSyllogism.rule.Proposes ps χ ∧ c.flatten.agrees χ = true)) ∧
    (∀ χ, RuleId.conjunction.rule.Proposes ps χ → v.Accepts .conjunction χ ps) ∧
    (∀ χ, RuleId.simplification.rule.Proposes ps χ → v.Accepts .simplification χ ps) := by
  refine ⟨fun id strict => ?_, ?_, fun wf => ?_, fun χ proposed => ?_, fun χ proposed => ?_⟩
  · exact accepts_iff.trans (RuleId.accepts_iff_proposes strict)
  · exact accepts_iff.trans ModusTollens.accepts_iff_exists_proposes
  · exact accepts_iff.trans (DisjunctiveSyllogism.accepts_iff_exists_proposes wf)
  · exact accepts_iff.mpr (Conjunction.accepts_of_proposes proposed)
  · exact accepts_iff.mpr (Simplification.accepts_of_proposes proposed)

/-- From `P ∨ Q` and `¬P` the verifier accepts `Q`, since that is proposed. -/
theorem Verifier.accepts_of_proposed_remainder :
    Accepts {} .disjunctiveSyllogism (.atom "Q")
      [.plain (.disj [.atom "P", .atom "Q"]), .plain (.neg (.atom "P"))] := by
  have wf : ∀ p ∈ [Premise.plain (.disj [.atom "P", .atom "Q"]), .plain (.neg (.atom "P"))],
      p.WellFormed := by decide
  have proposed : RuleId.disjunctiveSyllogism.rule.Proposes
      [.plain (.disj [.atom "P", .atom "Q"]), .plain (.neg (.atom "P"))] (.atom "Q") :=
    ⟨[.atom "Q"], rfl, List.mem_cons_self⟩
  exact ((accepts_agrees_with_proposes {} _ _).2.2.1 wf).mpr ⟨.atom "Q", proposed, rfl⟩

end NaturalDeduction
