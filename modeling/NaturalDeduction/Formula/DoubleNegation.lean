import NaturalDeduction.Formula.Basic

/-!
# Formulas up to double negation

`Formula.reduce` removes double negations at every depth: `¬¬φ` becomes `φ`, reduced in turn. Two
formulas agree up to double negation when they reduce to the same formula.
-/

namespace NaturalDeduction.Formula

mutual

/-- The formula without its double negations. -/
def reduce : Formula → Formula
  | .atom n => .atom n
  | .neg (.neg φ) => φ.reduce
  | .neg φ => .neg φ.reduce
  | .junction j φs => .junction j (reduceAll φs)
  | .imp φ ψ => .imp φ.reduce ψ.reduce
  | .iff φ ψ => .iff φ.reduce ψ.reduce

/-- The formulas without their double negations. -/
def reduceAll : List Formula → List Formula
  | [] => []
  | φ :: φs => φ.reduce :: reduceAll φs

end

/-- Whether two formulas are the same once their double negations are gone. -/
def agrees (φ ψ : Formula) : Bool := φ.reduce = ψ.reduce

@[simp] theorem reduceAll_eq_map (φs : List Formula) : reduceAll φs = φs.map reduce := by
  induction φs with
  | nil => rfl
  | cons φ φs ih => simp [reduceAll, ih]

/-- To agree up to double negation is to have the same reduced form. -/
@[simp] theorem agrees_iff {φ ψ : Formula} : φ.agrees ψ = true ↔ φ.reduce = ψ.reduce := by
  simp [agrees]

/-- Reduction goes into a junction operand by operand. -/
theorem reduce_junction (j : Junction) (φs : List Formula) :
    (junction j φs).reduce = .junction j (φs.map reduce) := by
  simp only [reduce, reduceAll_eq_map]

/-- A negation of what is none itself stays. -/
theorem reduce_neg_of_ne {φ : Formula} (head : φ.connective ≠ .negation) :
    (neg φ).reduce = .neg φ.reduce := by
  cases φ with
  | neg φ => exact absurd rfl head
  | _ => simp only [reduce]

/-- A statement holds of every formula if it passes from `φ` to `¬¬φ`, from what is no negation to
its negation, and from the operands to any other formula. -/
theorem induction_by_negations {P : Formula → Prop} (atom : ∀ n, P (.atom n))
    (cancel : ∀ φ, P φ → P (.neg (.neg φ)))
    (neg : ∀ φ, φ.connective ≠ .negation → P φ → P (.neg φ))
    (junction : ∀ j φs, (∀ φ ∈ φs, P φ) → P (.junction j φs))
    (imp : ∀ φ ψ, P φ → P ψ → P (.imp φ ψ)) (iff : ∀ φ ψ, P φ → P ψ → P (.iff φ ψ)) (φ : Formula) :
    P φ := by
  -- `reduce` takes two negations at a time, so the induction is the one of its own recursion.
  induction φ using reduce.induct (motive_2 := fun φs => ∀ φ ∈ φs, P φ) with
  | case1 n => exact atom n
  | case2 φ ih => exact cancel φ ih
  | case3 φ single ih =>
    refine neg φ (fun head => ?_) ih
    obtain ⟨ψ, rfl⟩ := connective_eq_negation.mp head
    exact single ψ rfl
  | case4 j φs ih => exact junction j φs ih
  | case5 φ ψ ihφ ihψ => exact imp φ ψ ihφ ihψ
  | case6 φ ψ ihφ ihψ => exact iff φ ψ ihφ ihψ
  | case7 φ mem => cases mem
  | case8 φ φs ihφ ihφs ψ mem =>
    rcases List.mem_cons.mp mem with rfl | rest
    · exact ihφ
    · exact ihφs ψ rest

end NaturalDeduction.Formula
