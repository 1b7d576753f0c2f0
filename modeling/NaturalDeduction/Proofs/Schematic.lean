import NaturalDeduction.Proofs.Formula.Substitution
import NaturalDeduction.Proofs.Rule.Biconditional
import NaturalDeduction.Proofs.Rule.Conditional
import NaturalDeduction.Proofs.Rule.Conjunction
import NaturalDeduction.Proofs.Rule.Structural
import NaturalDeduction.Proofs.Verifier

/-!
# Schematic rules

A rule is schematic when a step that it accepts is accepted again after a substitution, made alike
in the conclusion, the premises and the assumptions of subproofs. The rules that do not flatten are.

A substitution can make different formulas equal. So it matters that the rules ask only for formulas
to be equal, or to agree up to double negation, and never for them to differ: the sides of a
biconditional may fall together, and so may the conjuncts of a conjunction.
-/

namespace NaturalDeduction

variable {c : Formula} {ps : List Premise} (σ : Substitution)

/-- Substitution keeps two premises in the order they are in. -/
theorem InEitherOrder.subst {φ ψ : Formula} (pair : InEitherOrder ps φ ψ) :
    InEitherOrder (ps.map (Premise.subst σ)) (φ.subst σ) (ψ.subst σ) := by
  rcases pair with rfl | rfl
  · exact .inl rfl
  · exact .inr rfl

theorem Premise.map_subst_map_plain (φs : List Formula) :
    (φs.map plain).map (Premise.subst σ) = (φs.map (Formula.subst σ)).map plain := by
  simp only [List.map_map]
  rfl

namespace Conjunction

theorem accepts_subst (h : rule.Accepts c ps) :
    rule.Accepts (c.subst σ) (ps.map (Premise.subst σ)) := by
  obtain ⟨φs, ψs, rfl, rfl, count, same⟩ := accepts_iff.mp h
  -- Conjuncts and premises are compared as sets, and equal sets have equal images.
  have images (χ : Formula) :
      χ ∈ ψs.map (Formula.subst σ) ↔ χ ∈ φs.map (Formula.subst σ) := by
    simp only [List.mem_map, same]
  refine accepts_iff.mpr ⟨φs.map (Formula.subst σ), ψs.map (Formula.subst σ), ?_, ?_, ?_, images⟩
  · exact Formula.subst_junction σ .conj φs
  · exact Premise.map_subst_map_plain σ ψs
  · simp only [List.length_map, count]

end Conjunction

namespace ModusPonens

theorem accepts_subst (h : rule.Accepts c ps) :
    rule.Accepts (c.subst σ) (ps.map (Premise.subst σ)) := by
  obtain ⟨φ, pair⟩ := accepts_iff.mp h
  have images := pair.subst σ
  rw [Formula.subst_imp] at images
  exact accepts_iff.mpr ⟨φ.subst σ, images⟩

end ModusPonens

namespace ModusTollens

/-- Substitution keeps a denial a denial. -/
theorem Denies.subst {φ ψ χ : Formula} (denies : Denies φ ψ χ) :
    Denies (φ.subst σ) (ψ.subst σ) (χ.subst σ) := by
  obtain ⟨a, b, rfl, denied, rfl⟩ := denies
  have denied := Formula.agrees_subst σ denied
  rw [Formula.subst_neg] at denied
  exact ⟨a.subst σ, b.subst σ, Formula.subst_imp σ a b, denied, Formula.subst_neg σ a⟩

theorem accepts_subst (h : rule.Accepts c ps) :
    rule.Accepts (c.subst σ) (ps.map (Premise.subst σ)) := by
  obtain ⟨φ, ψ, pair, χ, denies, agrees⟩ := accepts_iff.mp h
  exact accepts_iff.mpr ⟨φ.subst σ, ψ.subst σ, pair.subst σ, χ.subst σ, denies.subst σ,
    Formula.agrees_subst σ agrees⟩

end ModusTollens

namespace DoubleNegation

theorem accepts_subst (h : rule.Accepts c ps) :
    rule.Accepts (c.subst σ) (ps.map (Premise.subst σ)) := by
  rw [accepts_iff] at h ⊢
  simp only [h, List.map_cons, List.map_nil, Premise.subst, Formula.subst_neg]

end DoubleNegation

namespace Reiteration

theorem accepts_subst (h : rule.Accepts c ps) :
    rule.Accepts (c.subst σ) (ps.map (Premise.subst σ)) := by
  rw [accepts_iff] at h ⊢
  simp only [h, List.map_cons, List.map_nil, Premise.subst]

end Reiteration

namespace ConditionalProof

theorem accepts_subst (h : rule.Accepts c ps) :
    rule.Accepts (c.subst σ) (ps.map (Premise.subst σ)) := by
  obtain ⟨a, b, rfl, rfl⟩ := accepts_iff.mp h
  exact accepts_iff.mpr ⟨a.subst σ, b.subst σ, rfl, Formula.subst_imp σ a b⟩

end ConditionalProof

namespace BiconditionalIntroduction

theorem accepts_subst (h : rule.Accepts c ps) :
    rule.Accepts (c.subst σ) (ps.map (Premise.subst σ)) := by
  obtain ⟨l, r, rfl, pair⟩ := accepts_iff.mp h
  have images := pair.subst σ
  simp only [Formula.subst_imp] at images
  exact accepts_iff.mpr ⟨l.subst σ, r.subst σ, Formula.subst_iff σ l r, images⟩

end BiconditionalIntroduction

namespace BiconditionalElimination

/-- If the sides fall together, the side across from either is still the image of the other. -/
theorem Across.subst {φ ψ χ : Formula} (across : Across φ ψ χ) :
    Across (φ.subst σ) (ψ.subst σ) (χ.subst σ) := by
  rcases across with rfl | rfl
  · exact .inl (Formula.subst_iff σ ψ χ)
  · exact .inr (Formula.subst_iff σ χ ψ)

theorem accepts_subst (h : rule.Accepts c ps) :
    rule.Accepts (c.subst σ) (ps.map (Premise.subst σ)) := by
  obtain ⟨φ, ψ, pair, across⟩ := accepts_iff.mp h
  exact accepts_iff.mpr ⟨φ.subst σ, ψ.subst σ, pair.subst σ, across.subst σ⟩

end BiconditionalElimination

namespace RuleId

/-- The rules that do not flatten, other than the hypothetical syllogism. -/
def IsSchematic (id : RuleId) : Prop :=
  id ∈ [conjunction, modusPonens, modusTollens, doubleNegation, reiteration, conditionalProof,
    biconditionalIntroduction, biconditionalElimination]

instance : DecidablePred IsSchematic := fun id =>
  inferInstanceAs (Decidable (id ∈ [_, _, _, _, _, _, _, _]))

/-- A schematic rule accepts every instance of a step that it accepts. -/
theorem accepts_subst {id : RuleId} (schematic : id.IsSchematic) (h : id.rule.Accepts c ps) :
    id.rule.Accepts (c.subst σ) (ps.map (Premise.subst σ)) := by
  simp only [IsSchematic, List.mem_cons, List.not_mem_nil, or_false] at schematic
  rcases schematic with rfl | rfl | rfl | rfl | rfl | rfl | rfl | rfl
  · exact Conjunction.accepts_subst σ h
  · exact ModusPonens.accepts_subst σ h
  · exact ModusTollens.accepts_subst σ h
  · exact DoubleNegation.accepts_subst σ h
  · exact Reiteration.accepts_subst σ h
  · exact ConditionalProof.accepts_subst σ h
  · exact BiconditionalIntroduction.accepts_subst σ h
  · exact BiconditionalElimination.accepts_subst σ h

end RuleId

/-- A step that the verifier calls valid by a schematic rule, whichever way the rule was named, is
called valid after every substitution. -/
theorem Verifier.valid_instance_of_valid (v : Verifier) (r : RuleRef) (id : RuleId) (c : Formula)
    (ps : List Premise) (σ : Substitution) (schematic : id.IsSchematic)
    (valid : (v.verifyStep r c (ps.map .premise)).outcome = .ok ⟨id, .valid⟩) :
    (v.verifyStep r (c.subst σ) ((ps.map (Premise.subst σ)).map .premise)).outcome =
      .ok ⟨id, .valid⟩ := by
  obtain ⟨found, judged⟩ := exists_judge_of_verifyStep valid
  have accepted : id.rule.Accepts (c.subst σ) (ps.map (Premise.subst σ)) :=
    RuleId.accepts_subst σ schematic judged
  rw [verifyStep_eq_verifyBy found, verifyBy_outcome_eq_ok_iff]
  exact ⟨rfl, accepted⟩

/-- From `P → Q` and `¬Q` the verifier accepts `¬P`. With a negation put in the place of every atom,
it accepts `¬¬P` from `¬P → ¬Q` and `¬¬Q`. -/
theorem Verifier.valid_instance_of_negated_atoms :
    (Verifier.verifyStep {} (.known .modusTollens) (.neg (.neg (.atom "P")))
      ([.plain (.imp (.neg (.atom "P")) (.neg (.atom "Q"))),
        .plain (.neg (.neg (.atom "Q")))].map .premise)).outcome = .ok ⟨.modusTollens, .valid⟩ := by
  have valid : (Verifier.verifyStep {} (.known .modusTollens) (.neg (.atom "P"))
      ([.plain (.imp (.atom "P") (.atom "Q")), .plain (.neg (.atom "Q"))].map .premise)).outcome =
      .ok ⟨.modusTollens, .valid⟩ := rfl
  have schematic : RuleId.modusTollens.IsSchematic := by decide
  exact valid_instance_of_valid {} _ _ _ _ (fun n => .neg (.atom n)) schematic valid

end NaturalDeduction
