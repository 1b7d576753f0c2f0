import NaturalDeduction.Formula.DoubleNegation

/-!
# What reduction makes of a formula

`reduce` takes negations away two at a time, and its outcome for a negation can be had from that for
what is negated: `Formula.opposite` removes the negation that a formula begins with, or puts one in
front. Everywhere else reduction goes operand by operand.

`Formula.IsReduced` says that no negation negates a negation. It does not know of `reduce`, which
leaves a formula as it is exactly when the formula is reduced.
-/

namespace NaturalDeduction.Formula

variable {φ ψ : Formula}

/-! ## Reduction one negation at a time -/

/-- What denies a formula: a negation loses its negation, and any other formula gains one. -/
def opposite : Formula → Formula
  | .neg φ => φ
  | φ => .neg φ

theorem opposite_eq_neg (head : φ.connective ≠ .negation) : φ.opposite = .neg φ := by
  cases φ with
  | neg φ => exact absurd rfl head
  | _ => rfl

/-- Reduction keeps the connective of a formula that is no negation. -/
theorem connective_reduce (head : φ.connective ≠ .negation) :
    φ.reduce.connective = φ.connective := by
  cases φ with
  | neg φ => exact absurd rfl head
  | _ => simp only [reduce, connective]

theorem operands_reduce (head : φ.connective ≠ .negation) :
    φ.reduce.operands = φ.operands.map reduce := by
  cases φ with
  | neg φ => exact absurd rfl head
  | junction j φs => rw [reduce_junction]; rfl
  | _ => simp [reduce, operands]

/-! ## Reduced formulas -/

/-- No negation in the formula, however deep, negates a negation. -/
inductive IsReduced : Formula → Prop
  | atom (n : String) : IsReduced (.atom n)
  | neg {φ : Formula} : φ.connective ≠ .negation → IsReduced φ → IsReduced (.neg φ)
  | junction {j : Junction} {φs : List Formula} :
      (∀ φ ∈ φs, IsReduced φ) → IsReduced (.junction j φs)
  | imp {φ ψ : Formula} : IsReduced φ → IsReduced ψ → IsReduced (.imp φ ψ)
  | iff {φ ψ : Formula} : IsReduced φ → IsReduced ψ → IsReduced (.iff φ ψ)

/-- What comes of reduction is reduced. -/
theorem isReduced_reduce (φ : Formula) : φ.reduce.IsReduced := by
  induction φ using induction_by_negations with
  | atom n => exact .atom n
  | cancel φ ih => rwa [reduce]
  | neg φ head ih =>
    rw [reduce_neg_of_ne head]
    exact .neg (by rwa [connective_reduce head]) ih
  | junction j φs ih =>
    rw [reduce_junction]
    exact .junction (List.forall_mem_map.mpr ih)
  | imp φ ψ ihφ ihψ => exact .imp ihφ ihψ
  | iff φ ψ ihφ ihψ => exact .iff ihφ ihψ

/-- A reduced formula is no double negation. -/
theorem reduce_ne_neg_neg (φ χ : Formula) : φ.reduce ≠ .neg (.neg χ) := by
  intro double
  have reduced := isReduced_reduce φ
  rw [double] at reduced
  cases reduced with
  | neg head _ => exact head rfl

/-- Denied twice, a formula that is no double negation is itself again. -/
theorem opposite_opposite {φ : Formula} (single : ∀ χ, φ ≠ .neg (.neg χ)) :
    φ.opposite.opposite = φ := by
  cases φ with
  | neg ψ =>
    cases ψ with
    | neg χ => exact absurd rfl (single χ)
    | _ => rfl
  | _ => rfl

/-- The reduced negation of a formula is the opposite of the reduced formula. -/
theorem reduce_neg (φ : Formula) : (neg φ).reduce = φ.reduce.opposite := by
  induction φ using Formula.induction with
  | neg φ ih =>
    have back : φ.reduce.opposite.opposite = φ.reduce := opposite_opposite (reduce_ne_neg_neg φ)
    simp only [reduce, ih, back]
  | _ => simp [reduce, opposite]

/-- Negations agree up to double negation when what they negate does. -/
theorem agrees_neg_iff {φ ψ : Formula} :
    (neg φ).agrees (neg ψ) = true ↔ φ.agrees ψ = true := by
  rw [agrees_iff, agrees_iff, reduce_neg, reduce_neg]
  constructor
  · intro same
    calc φ.reduce
      _ = φ.reduce.opposite.opposite := (opposite_opposite (reduce_ne_neg_neg φ)).symm
      _ = ψ.reduce.opposite.opposite := by rw [same]
      _ = ψ.reduce := opposite_opposite (reduce_ne_neg_neg ψ)
  · intro same
    rw [same]

/-- Reduction leaves a reduced formula as it is. -/
theorem IsReduced.reduce_eq (reduced : φ.IsReduced) : φ.reduce = φ := by
  induction reduced with
  | atom n => rfl
  | neg head _ ih => rw [reduce_neg, ih, opposite_eq_neg head]
  | @junction j φs _ ih =>
    rw [reduce_junction, List.map_congr_left ih]
    exact congrArg _ (List.map_id φs)
  | imp _ _ ihφ ihψ => rw [reduce, ihφ, ihψ]
  | iff _ _ ihφ ihψ => rw [reduce, ihφ, ihψ]

/-- Reduction leaves a formula as it is when the formula is reduced. -/
theorem reduce_eq_self_iff : φ.reduce = φ ↔ φ.IsReduced :=
  ⟨fun same => same ▸ isReduced_reduce φ, IsReduced.reduce_eq⟩

instance : DecidablePred IsReduced := fun _ => decidable_of_iff _ reduce_eq_self_iff

end NaturalDeduction.Formula
