/-!
# Connectives

The six ways a formula can be headed: an atom, which joins nothing, and the five connectives proper.
Each has its symbol in two scripts, the number of operands it takes, and a precedence that decides
where parentheses are needed.
-/

namespace NaturalDeduction

/-- The script that formulas are written in: logical symbols, or their ASCII spelling. -/
inductive Script
  | logical
  | ascii
  deriving DecidableEq, Repr

/-- The head of a formula. An atom counts as the connective of no operands. -/
inductive Connective
  | atom
  | negation
  | conjunction
  | disjunction
  | conditional
  | biconditional
  deriving DecidableEq, Repr

namespace Connective

/-- The upper case word by which error texts name the connective. -/
def label : Connective → String
  | atom => "ATOM"
  | negation => "NOT"
  | conjunction => "AND"
  | disjunction => "OR"
  | conditional => "CONDITIONAL"
  | biconditional => "BICONDITIONAL"

/-- All connectives, from the tightest binding to the loosest. -/
def all : List Connective :=
  [atom, negation, conjunction, disjunction, conditional, biconditional]

/-- The connective that a label names. -/
def ofLabel? (label : String) : Option Connective :=
  all.find? fun c => c.label == label

/-- The symbol that stands before or between the operands; atoms have none. -/
def symbol : Script → Connective → String
  | .logical, atom => ""
  | .logical, negation => "¬"
  | .logical, conjunction => "∧"
  | .logical, disjunction => "∨"
  | .logical, conditional => "→"
  | .logical, biconditional => "↔"
  | .ascii, atom => ""
  | .ascii, negation => "~"
  | .ascii, conjunction => "/\\"
  | .ascii, disjunction => "\\/"
  | .ascii, conditional => "->"
  | .ascii, biconditional => "<->"

/-- The number of operands, which is the least number where more are allowed. -/
def arity : Connective → Nat
  | atom => 0
  | negation => 1
  | conjunction | disjunction | conditional | biconditional => 2

/-- Conjunction and disjunction join any number of operands from two on. -/
def isVariadic : Connective → Bool
  | conjunction | disjunction => true
  | atom | negation | conditional | biconditional => false

/-- Binding strength: the larger number binds tighter. -/
def precedence : Connective → Nat
  | atom => 6
  | negation => 5
  | conjunction => 4
  | disjunction => 3
  | conditional => 2
  | biconditional => 1

/-- Whether a formula headed by the connective may have this many operands. -/
def accepts (c : Connective) (count : Int) : Bool :=
  if c.isVariadic then c.arity ≤ count else count == c.arity

/-- An operand is parenthesised when its head binds looser than negation does. -/
def needsParentheses (c : Connective) : Bool :=
  c.precedence < negation.precedence

end Connective

end NaturalDeduction
