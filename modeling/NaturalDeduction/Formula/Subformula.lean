import NaturalDeduction.Formula.DoubleNegation

/-!
# Subformulas

A formula contains itself and whatever its operands contain. Containment up to double negation looks
for the one reduced formula in the other.
-/

namespace NaturalDeduction.Formula

mutual

/-- Whether `ψ` is the formula or occurs anywhere beneath it. -/
def contains (ψ : Formula) : Formula → Bool
  | .atom n => Formula.atom n = ψ
  | .neg φ => Formula.neg φ = ψ || contains ψ φ
  | .junction j φs => Formula.junction j φs = ψ || containsAny ψ φs
  | .imp φ φ' => Formula.imp φ φ' = ψ || contains ψ φ || contains ψ φ'
  | .iff φ φ' => Formula.iff φ φ' = ψ || contains ψ φ || contains ψ φ'

/-- Whether `ψ` occurs in one of several formulas. -/
def containsAny (ψ : Formula) : List Formula → Bool
  | [] => false
  | φ :: φs => contains ψ φ || containsAny ψ φs

end

/-- Whether the formula has a given subformula. -/
def hasSubformula (φ ψ : Formula) : Bool := contains ψ φ

/-- Whether the formula has a given subformula once the double negations of both are gone. -/
def hasReducedSubformula (φ ψ : Formula) : Bool := φ.reduce.hasSubformula ψ.reduce

end NaturalDeduction.Formula
