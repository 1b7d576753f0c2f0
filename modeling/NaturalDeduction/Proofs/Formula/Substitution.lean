import NaturalDeduction.Premise
import NaturalDeduction.Proofs.Formula.Reduction

/-!
# Substitution

A substitution puts a formula in the place of every atom, the same one wherever the atom stands.
Distinct formulas may become equal by it, and never the other way round. An atom may become a
negation, and then double negations come up that were not there before; agreement up to double
negation is kept nonetheless, since a negation in front is removed or added alike on both sides.
-/

namespace NaturalDeduction

/-- What is put in the place of each atom. -/
abbrev Substitution := String → Formula

namespace Formula

mutual

/-- The formula with every atom replaced. -/
def subst (σ : Substitution) : Formula → Formula
  | .atom n => σ n
  | .neg φ => .neg (subst σ φ)
  | .junction j φs => .junction j (substAll σ φs)
  | .imp φ ψ => .imp (subst σ φ) (subst σ ψ)
  | .iff φ ψ => .iff (subst σ φ) (subst σ ψ)

/-- The formulas with every atom replaced. -/
def substAll (σ : Substitution) : List Formula → List Formula
  | [] => []
  | φ :: φs => subst σ φ :: substAll σ φs

end

variable (σ : Substitution)

@[simp] theorem substAll_eq_map (φs : List Formula) : substAll σ φs = φs.map (subst σ) := by
  induction φs with
  | nil => rfl
  | cons φ φs ih => simp [substAll, ih]

@[simp] theorem subst_neg (φ : Formula) : (neg φ).subst σ = .neg (φ.subst σ) := by
  simp only [subst]

/-- Substitution goes into a junction operand by operand. -/
@[simp] theorem subst_junction (j : Junction) (φs : List Formula) :
    (junction j φs).subst σ = .junction j (φs.map (subst σ)) := by
  simp only [subst, substAll_eq_map]

@[simp] theorem subst_imp (φ ψ : Formula) :
    (imp φ ψ).subst σ = .imp (φ.subst σ) (ψ.subst σ) := by
  simp only [subst]

@[simp] theorem subst_iff (φ ψ : Formula) :
    (iff φ ψ).subst σ = .iff (φ.subst σ) (ψ.subst σ) := by
  simp only [subst]

/-! ## Substitution and reduction -/

/-- Reducing before the substitution makes no difference when the outcome is reduced. -/
theorem reduce_subst_reduce (φ : Formula) : (φ.reduce.subst σ).reduce = (φ.subst σ).reduce := by
  induction φ using induction_by_negations with
  | atom n => rfl
  | cancel φ ih => rw [reduce, ih, subst_neg, subst_neg, reduce]
  | neg φ head ih =>
    -- What was no negation may have become one.
    rw [reduce_neg_of_ne head, subst_neg, subst_neg, reduce_neg, reduce_neg, ih]
  | junction j φs ih =>
    have each : φs.map (reduce ∘ subst σ ∘ reduce) = φs.map (reduce ∘ subst σ) :=
      List.map_congr_left ih
    simp only [reduce_junction, subst_junction, List.map_map, each]
  | imp φ ψ ihφ ihψ => simp only [reduce, subst_imp, ihφ, ihψ]
  | iff φ ψ ihφ ihψ => simp only [reduce, subst_iff, ihφ, ihψ]

/-- Formulas that agree up to double negation still agree when their atoms are replaced. -/
theorem agrees_subst {φ ψ : Formula} (agrees : φ.agrees ψ = true) :
    (φ.subst σ).agrees (ψ.subst σ) = true := by
  rw [agrees_iff] at agrees ⊢
  calc (φ.subst σ).reduce
    _ = (φ.reduce.subst σ).reduce := (reduce_subst_reduce σ φ).symm
    _ = (ψ.reduce.subst σ).reduce := by rw [agrees]
    _ = (ψ.subst σ).reduce := reduce_subst_reduce σ ψ

end Formula

/-- The premise with every atom replaced, in the assumptions of a subproof too. -/
def Premise.subst (σ : Substitution) : Premise → Premise
  | plain φ => plain (φ.subst σ)
  | subproof assumptions ψ => subproof (assumptions.map (Formula.subst σ)) (ψ.subst σ)

end NaturalDeduction
