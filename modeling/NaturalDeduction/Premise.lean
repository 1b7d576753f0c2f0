import NaturalDeduction.Formula.Written

/-!
# Premises, steps and their parts

A premise of an inference step is a plain formula or a subproof: a conclusion together with the
assumptions that the subproof discharges. A step puts a conclusion under a list of premises.
-/

namespace NaturalDeduction

/-- One premise of an inference step. -/
inductive Premise
  | plain (φ : Formula)
  | subproof (assumptions : List Formula) (conclusion : Formula)
  deriving DecidableEq

namespace Premise

/-- The formula that the premise asserts: for a subproof, its conclusion. -/
def formula : Premise → Formula
  | plain φ => φ
  | subproof _ ψ => ψ

/-- Whether the premise is a subproof. -/
def isSubproof : Premise → Bool
  | plain _ => false
  | subproof _ _ => true

/-- A premise in writing; a subproof stands in brackets, its assumptions before a turnstile. -/
def text : Premise → String
  | plain φ => φ.text
  | subproof assumptions ψ => s!"[{Formula.textAll assumptions} ⊢ {ψ.text}]"

end Premise

/-- An inference step: a conclusion drawn from premises. -/
structure Step where
  conclusion : Formula
  premises : List Premise
  deriving DecidableEq

end NaturalDeduction
