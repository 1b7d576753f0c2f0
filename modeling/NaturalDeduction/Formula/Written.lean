import NaturalDeduction.Formula.Basic
import NaturalDeduction.Text.Quoted

/-!
# Formulas in writing

A formula is written with its connective between its operands, or before the operand of a negation.
Every operand headed by a binary connective is parenthesised, so only atoms and negations stand
bare.
-/

namespace NaturalDeduction.Formula

/-- Parentheses around the writing of an operand, where its head asks for them. -/
def parenthesise (φ : Formula) (s : String) : String :=
  if φ.connective.needsParentheses then "(" ++ s ++ ")" else s

mutual

/-- A formula in writing. -/
def render (script : Script) : Formula → String
  | .atom name => name
  | .neg φ => Connective.negation.symbol script ++ φ.parenthesise (φ.render script)
  | .junction j φs =>
    (" " ++ j.connective.symbol script ++ " ").intercalate (renderOperands script φs)
  | .imp φ ψ =>
    φ.parenthesise (φ.render script) ++ " " ++ Connective.conditional.symbol script ++ " " ++
      ψ.parenthesise (ψ.render script)
  | .iff φ ψ =>
    φ.parenthesise (φ.render script) ++ " " ++ Connective.biconditional.symbol script ++ " " ++
      ψ.parenthesise (ψ.render script)

/-- Operands in writing, each in parentheses where it needs them. -/
def renderOperands (script : Script) : List Formula → List String
  | [] => []
  | φ :: φs => φ.parenthesise (φ.render script) :: renderOperands script φs

end

/-- A formula in logical symbols. -/
def text (φ : Formula) : String := φ.render .logical

/-- A formula as it is shown among values of other kinds. -/
def inspect (φ : Formula) : String := "Expr(" ++ Text.quoted φ.text ++ ")"

/-- Several formulas in writing, separated by commas. -/
def textAll (φs : List Formula) : String := ", ".intercalate (φs.map text)

end NaturalDeduction.Formula
