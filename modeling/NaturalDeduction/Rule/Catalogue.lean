import NaturalDeduction.Rule.Biconditional
import NaturalDeduction.Rule.Conditional
import NaturalDeduction.Rule.Conjunction
import NaturalDeduction.Rule.Disjunction
import NaturalDeduction.Rule.Structural
import NaturalDeduction.Text.Blank
import NaturalDeduction.Value.Written

/-!
# The catalogue of rules

The thirteen rules, their identifiers in the order in which menus offer them, and how a rule is
found by what a caller names it with. A name is matched after blanks around it are cut off and its
letters are made lower case; anything but a known identifier or the text of one is refused.
-/

namespace NaturalDeduction

/-- The identifiers of the rules, in menu order. -/
inductive RuleId
  | conjunction
  | simplification
  | hypotheticalSyllogism
  | modusPonens
  | modusTollens
  | addition
  | disjunctiveSyllogism
  | doubleNegation
  | reiteration
  | conditionalProof
  | biconditionalIntroduction
  | biconditionalElimination
  | disjunctionElimination
  deriving DecidableEq, Repr

namespace RuleId

/-- All identifiers, in menu order. -/
def all : List RuleId :=
  [conjunction, simplification, hypotheticalSyllogism, modusPonens, modusTollens, addition,
   disjunctiveSyllogism, doubleNegation, reiteration, conditionalProof, biconditionalIntroduction,
   biconditionalElimination, disjunctionElimination]

/-- The name by which an identifier is written. -/
def key : RuleId → String
  | conjunction => "conjunction"
  | simplification => "simplification"
  | hypotheticalSyllogism => "hypothetical_syllogism"
  | modusPonens => "modus_ponens"
  | modusTollens => "modus_tollens"
  | addition => "addition"
  | disjunctiveSyllogism => "disjunctive_syllogism"
  | doubleNegation => "double_negation"
  | reiteration => "reiteration"
  | conditionalProof => "conditional_proof"
  | biconditionalIntroduction => "biconditional_introduction"
  | biconditionalElimination => "biconditional_elimination"
  | disjunctionElimination => "disjunction_elimination"

/-- The name in upper case, which labels the identifier itself. -/
def label (id : RuleId) : String := id.key.map Char.toUpper

/-- The rule of an identifier. -/
def rule : RuleId → Rule
  | conjunction => Conjunction.rule
  | simplification => Simplification.rule
  | hypotheticalSyllogism => HypotheticalSyllogism.rule
  | modusPonens => ModusPonens.rule
  | modusTollens => ModusTollens.rule
  | addition => Addition.rule
  | disjunctiveSyllogism => DisjunctiveSyllogism.rule
  | doubleNegation => DoubleNegation.rule
  | reiteration => Reiteration.rule
  | conditionalProof => ConditionalProof.rule
  | biconditionalIntroduction => BiconditionalIntroduction.rule
  | biconditionalElimination => BiconditionalElimination.rule
  | disjunctionElimination => CaseAnalysis.rule

/-- The identifier that has a key. -/
def ofKey? (key : String) : Option RuleId := all.find? fun id => id.key == key

/-- The identifier that has a label. -/
def ofLabel? (label : String) : Option RuleId := all.find? fun id => id.label == label

end RuleId

/-- What a caller names a rule with: an identifier, or some value that may spell one. -/
inductive RuleRef
  | known (id : RuleId)
  | given (v : Value)

namespace RuleRef

/-- The text that is looked up for a spelling. No character outside ASCII becomes a letter of an
identifier in lower case, so only ASCII letters are changed. -/
def normalise (s : String) : String :=
  String.ofList ((Text.trim Text.isBlank s.toList).map Char.toLower)

/-- The identifier that is meant, if one is. -/
def resolve? : RuleRef → Option RuleId
  | known id => some id
  | given (.text s) => RuleId.ofKey? (normalise s)
  | given _ => none

/-- The value that records the reference: an identifier by its label, a spelling as it was given. -/
def recorded : RuleRef → Value
  | known id => .text id.label
  | given v => v

/-- The text of a refusal to resolve. -/
def unknownMessage (v : Value) : String := s!"Unknown rule identifier: {v.written}"

end RuleRef

/-- One row of the menu of rules. -/
structure RuleEntry where
  identifier : RuleId
  name : String
  shortName : String
  groups : List String
  reorderable : Bool
  suggests : Bool

/-- The row of a rule. -/
def RuleId.entry (id : RuleId) : RuleEntry where
  identifier := id
  name := id.rule.name
  shortName := id.rule.shortName
  groups := id.rule.kind.groups
  reorderable := id.rule.reorderable
  suggests := id.rule.suggests

/-- The menu without the hidden rules. -/
def catalogue (hidden : List RuleId) : List RuleEntry :=
  (RuleId.all.filter (· ∉ hidden)).map RuleId.entry

end NaturalDeduction
