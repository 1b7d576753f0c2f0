import NaturalDeduction.Proofs.Formula.Containment
import NaturalDeduction.Proofs.Formula.Flattening

/-!
# Containment is an order

What a formula contains besides itself is smaller than it, so two formulas that contain each other
are the same. Containment up to double negation is containment of the reduced formulas: it inherits
being an order, with agreement in the place of equality, and formulas that agree contain and are
contained alike.

`Formula.OrdersUpTo` states all of this of a relation on formulas and the equality that it goes
with.
-/

namespace NaturalDeduction.Formula

variable {φ ψ χ : Formula}

/-- The relation is an order if formulas that are the same, in the sense given first, count as
one. -/
structure OrdersUpTo (same : Formula → Formula → Prop) (contains : Formula → Formula → Bool) :
    Prop where
  refl (φ : Formula) : contains φ φ = true
  trans {φ ψ χ : Formula} :
    contains φ ψ = true → contains ψ χ = true → contains φ χ = true
  antisymm {φ ψ : Formula} : contains φ ψ = true → contains ψ φ = true → same φ ψ
  congr {φ φ' ψ ψ' : Formula} : same φ φ' → same ψ ψ' → contains φ ψ = contains φ' ψ'

/-- An order of formulas orders, through any way of rewriting them, the formulas that are rewritten:
those with the same outcome count as one. -/
theorem OrdersUpTo.comap {contains : Formula → Formula → Bool} (order : OrdersUpTo Eq contains)
    (f : Formula → Formula) :
    OrdersUpTo (fun φ ψ => f φ = f ψ) (fun φ ψ => contains (f φ) (f ψ)) where
  refl φ := order.refl (f φ)
  trans := order.trans
  antisymm := order.antisymm
  congr left right := order.congr left right

/-! ## Strict containment -/

/-- What a contained formula contains is contained. -/
theorem hasSubformula_trans (outer : φ.hasSubformula ψ = true) (inner : ψ.hasSubformula χ = true) :
    φ.hasSubformula χ = true := by
  induction φ using induction_on_operands with
  | step φ ih =>
    obtain rfl | ⟨ω, operand, deeper⟩ := hasSubformula_iff.mp outer
    · exact inner
    · exact hasSubformula_of_operand operand (ih ω operand deeper)

/-- An operand is smaller than the formula. -/
theorem sizeOf_lt_of_mem_operands (operand : χ ∈ φ.operands) : sizeOf χ < sizeOf φ := by
  cases φ with
  | junction j φs => exact sizeOf_lt_junction operand
  | atom n => cases operand
  | neg φ =>
    obtain rfl := List.mem_singleton.mp operand
    rw [neg.sizeOf_spec]
    omega
  | imp φ ψ =>
    rw [imp.sizeOf_spec]
    obtain rfl | rfl := List.mem_pair.mp operand <;> omega
  | iff φ ψ =>
    rw [iff.sizeOf_spec]
    obtain rfl | rfl := List.mem_pair.mp operand <;> omega

/-- A subformula is the whole formula or smaller. -/
theorem eq_or_sizeOf_lt_of_hasSubformula (contained : φ.hasSubformula ψ = true) :
    φ = ψ ∨ sizeOf ψ < sizeOf φ := by
  induction φ using induction_on_operands with
  | step φ ih =>
    obtain whole | ⟨χ, operand, inner⟩ := hasSubformula_iff.mp contained
    · exact .inl whole
    · have below := sizeOf_lt_of_mem_operands operand
      obtain rfl | smaller := ih χ operand inner
      · exact .inr below
      · exact .inr (Nat.lt_trans smaller below)

/-- Formulas that contain each other are the same. -/
theorem hasSubformula_antisymm (there : φ.hasSubformula ψ = true)
    (back : ψ.hasSubformula φ = true) : φ = ψ := by
  obtain same | smaller := eq_or_sizeOf_lt_of_hasSubformula there
  · exact same
  · obtain same | larger := eq_or_sizeOf_lt_of_hasSubformula back
    · exact same.symm
    · omega

/-- Strict containment is an order of formulas. -/
theorem ordersUpTo_hasSubformula : OrdersUpTo Eq hasSubformula where
  refl := hasSubformula_self
  trans := hasSubformula_trans
  antisymm := hasSubformula_antisymm
  congr left right := by rw [left, right]

/-! ## Containment up to double negation -/

/-- Containment orders the formulas, and containment up to double negation orders them up to double
negation. -/
theorem containment_orders :
    OrdersUpTo Eq hasSubformula ∧
      OrdersUpTo (fun φ ψ => φ.agrees ψ = true) hasReducedSubformula := by
  refine ⟨ordersUpTo_hasSubformula, ?_⟩
  simp only [agrees_iff]
  exact ordersUpTo_hasSubformula.comap reduce

/-- Up to double negation, `(P ∧ ¬¬Q) → R` contains `¬¬(P ∧ Q)` and this contains `¬¬Q`. So the
first contains the last, and `Q` too, which agrees with it. -/
theorem containment_orders_of_conjunct :
    let φ : Formula := .imp (.conj [.atom "P", .neg (.neg (.atom "Q"))]) (.atom "R")
    let ψ : Formula := .neg (.neg (.conj [.atom "P", .atom "Q"]))
    let χ : Formula := .neg (.neg (.atom "Q"))
    φ.hasReducedSubformula ψ = true ∧ ψ.hasReducedSubformula χ = true ∧
      φ.hasReducedSubformula χ = true ∧ φ.hasReducedSubformula (.atom "Q") = true := by
  intro φ ψ χ
  have order := containment_orders.2
  have outer : φ.hasReducedSubformula ψ = true := by decide
  have inner : ψ.hasReducedSubformula χ = true := by decide
  have whole : φ.hasReducedSubformula χ = true := order.trans outer inner
  refine ⟨outer, inner, whole, ?_⟩
  rw [← whole]
  exact order.congr (by decide) (by decide)

end NaturalDeduction.Formula
