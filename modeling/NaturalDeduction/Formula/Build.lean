import NaturalDeduction.Formula.Basic
import NaturalDeduction.Text.Quoted
import NaturalDeduction.Value.Basic

/-!
# Building and taking apart formulas

`Formula.build` puts a formula together from a connective, operands and a name, and refuses what
would not be well formed: the wrong number of operands, an operand that is no formula, an unnamed
atom, a named compound. The accessors at the end refuse a formula of the wrong head.
-/

namespace NaturalDeduction

/-- Something offered as an operand: a formula, or a value that is none. -/
inductive Operand
  | formula (φ : Formula)
  | other (kind : Value.Kind)

/-- Why a formula cannot be built. -/
inductive ArityError
  | operandsOnAtom (name : Option String)
  | unnamedAtom
  | namedCompound (c : Connective)
  | operandCount (c : Connective) (given : Nat)
  | notAFormula (c : Connective) (kind : Value.Kind)
  deriving DecidableEq, Repr

/-- The text of a refusal to build. -/
def ArityError.message : ArityError → String
  | operandsOnAtom none => "Atom None cannot have operands"
  | operandsOnAtom (some name) => s!"Atom {Text.quoted name} cannot have operands"
  | unnamedAtom => "Atom requires a non-empty symbol name"
  | namedCompound c => s!"{c.label} node cannot carry a symbol name"
  | operandCount c given =>
    let least := if c.isVariadic then "at least " else ""
    s!"{c.label} expects {least}{c.arity} operand(s), got {given}"
  | notAFormula c kind => s!"{c.label} operand must be an Expr, got {kind.name}"

/-- The formula that an operand is, or the kind of what is offered in its place. -/
def Operand.formula? : Operand → Except Value.Kind Formula
  | formula φ => .ok φ
  | other kind => .error kind

namespace Formula

/-- A compound of a connective and the operands it takes; `none` if their number is wrong. -/
def compose? : Connective → List Formula → Option Formula
  | .negation, [φ] => some (.neg φ)
  | .conjunction, φ :: ψ :: rest => some (.conj (φ :: ψ :: rest))
  | .disjunction, φ :: ψ :: rest => some (.disj (φ :: ψ :: rest))
  | .conditional, [φ, ψ] => some (.imp φ ψ)
  | .biconditional, [φ, ψ] => some (.iff φ ψ)
  | _, _ => none

/-- A formula from its head, its operands and its name. The number of operands is looked at before
the operands themselves. -/
def build (c : Connective) (operands : List Operand) (name : Option String) :
    Except ArityError Formula :=
  if c = .atom then
    if !operands.isEmpty then .error (.operandsOnAtom name)
    else match name with
      | none | some "" => .error .unnamedAtom
      | some n => .ok (.atom n)
  else if name.isSome then .error (.namedCompound c)
  else if !c.accepts operands.length then .error (.operandCount c operands.length)
  else match operands.mapM Operand.formula? with
    | .error kind => .error (.notAFormula c kind)
    | .ok φs => match compose? c φs with
      | some φ => .ok φ
      | none => .error (.operandCount c φs.length)

/-- Why a formula has no such part: the part's name, and the head that lacks it. -/
inductive PartError
  | operand (c : Connective)
  | antecedent (c : Connective)
  | consequent (c : Connective)
  deriving DecidableEq, Repr

/-- The text of a refusal to take apart. -/
def PartError.message : PartError → String
  | operand c => s!"{c.label} node has no single operand"
  | antecedent c => s!"{c.label} node has no antecedent"
  | consequent c => s!"{c.label} node has no consequent"

/-- What a negation negates. -/
def operand : Formula → Except PartError Formula
  | .neg φ => .ok φ
  | φ => .error (.operand φ.connective)

/-- The left side of a conditional. -/
def antecedent : Formula → Except PartError Formula
  | .imp φ _ => .ok φ
  | φ => .error (.antecedent φ.connective)

/-- The right side of a conditional. -/
def consequent : Formula → Except PartError Formula
  | .imp _ ψ => .ok ψ
  | φ => .error (.consequent φ.connective)

end Formula

end NaturalDeduction
