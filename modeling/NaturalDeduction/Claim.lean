import NaturalDeduction.Rule.Catalogue

/-!
# Claims

A claim asserts that a step follows by a rule, which is referred to and not yet looked up. It is
made of whatever a caller cites: premises, bare formulas, which count as plain premises, or
something that is neither and is refused.
-/

namespace NaturalDeduction

/-- Something cited as a premise. -/
inductive Citation
  | premise (p : Premise)
  | formula (φ : Formula)
  | other (kind : Value.Kind)

namespace Citation

/-- The premise that is cited, or the kind of what is cited in its place. -/
def premise? : Citation → Except Value.Kind Premise
  | premise p => .ok p
  | formula φ => .ok (.plain φ)
  | other kind => .error kind

/-- The text of a refusal to cite. -/
def refusal (kind : Value.Kind) : String := s!"Expected Premise or Expr, got {kind.name}"

end Citation

/-- An inference step, and the rule that it is said to follow by. -/
structure Claim extends Step where
  rule : RuleRef := .given .null

namespace Claim

/-- A claim from what is cited; the first citation that is no premise is refused. -/
def ofCitations (conclusion : Formula) (cited : List Citation) (rule : RuleRef) :
    Except Value.Kind Claim :=
  (cited.mapM Citation.premise?).map fun premises => { conclusion, premises, rule }

/-- A claim as it is recorded: its rule as it was named, and the texts of its formulas. -/
structure Summary where
  rule : Value
  conclusion : String
  premises : List String

/-- The record of a claim. -/
def summary (c : Claim) : Summary where
  rule := c.rule.recorded
  conclusion := c.conclusion.text
  premises := c.premises.map Premise.text

end Claim

end NaturalDeduction
