import NaturalDeduction.Formula.Build
import NaturalDeduction.Rule.Arrangement

/-!
# Rules

A rule of inference: its names, how many premises it takes and how many of them, at the end, are
subproofs, the check of a step, and the advisor that proposes conclusions for premises. The premise
counts may depend on the step.

A check is written for steps of the right shape, which `Rule.shapeDiagnostic?` decides. Handed
another step it may be at a loss; it then answers with a `Misuse` and neither accepts nor rejects.
`Rule.verify` looks at the shape first, and is strict about the number of premises.
-/

namespace NaturalDeduction

/-- How a check or an advisor can be at a loss. -/
inductive Misuse
  /-- The premises are not as many as the check is for. -/
  | premiseCount (given : Nat)
  /-- A plain premise was asked for its assumptions. -/
  | noAssumptions
  /-- The first of no assumptions was asked for. -/
  | noFirstAssumption
  /-- A formula was asked for a part that it has not got. -/
  | part (error : Formula.PartError)
  /-- A formula was taken for one of two operands. -/
  | operandCount (given : Nat)
  /-- A formula that was put together anew would not be well formed. -/
  | rebuilt (error : ArityError)
  deriving DecidableEq

namespace Misuse

/-! ## Parts that a check relies on

A check asks for these after it has made sure that they are there. -/

/-- A part of a formula. -/
def need (part : Except Formula.PartError Formula) : Except Misuse Formula :=
  part.mapError .part

/-- The antecedent and the consequent of a conditional. -/
def sides (φ : Formula) : Except Misuse (Formula × Formula) := do
  let antecedent ← need φ.antecedent
  let consequent ← need φ.consequent
  .ok (antecedent, consequent)

/-- The operands of a formula that has two. -/
def bothOperands (φ : Formula) : Except Misuse (Formula × Formula) :=
  match φ.operands with
  | [left, right] => .ok (left, right)
  | operands => .error (.operandCount operands.length)

/-- The junction of several formulas, built anew. -/
def join (j : Junction) (φs : List Formula) : Except Misuse Formula :=
  (Formula.build j.connective (φs.map .formula) none).mapError .rebuilt

/-- The assumptions of a premise that is a subproof. -/
def assumptions : Premise → Except Misuse (List Formula)
  | .subproof assumptions _ => .ok assumptions
  | .plain _ => .error .noAssumptions

/-- The first assumption of a premise that is a subproof. -/
def firstAssumption (p : Premise) : Except Misuse Formula := do
  match ← assumptions p with
  | assumption :: _ => .ok assumption
  | [] => .error .noFirstAssumption

@[simp] theorem need_ok (φ : Formula) : need (.ok φ) = .ok φ := rfl

@[simp] theorem sides_imp (a b : Formula) : sides (.imp a b) = .ok (a, b) := rfl

@[simp] theorem bothOperands_iff (l r : Formula) : bothOperands (.iff l r) = .ok (l, r) := rfl

@[simp] theorem assumptions_subproof (as : List Formula) (c : Formula) :
    assumptions (.subproof as c) = .ok as := rfl

@[simp] theorem firstAssumption_subproof (a : Formula) (as : List Formula) (c : Formula) :
    firstAssumption (.subproof (a :: as) c) = .ok a := rfl

end Misuse

/-- The check of a step: `none` accepts it. -/
abbrev Check := Step → Except Misuse (Option Diagnostic)

/-- Proposals for a conclusion; `none` when the premises do not fit the rule. -/
abbrev Advisor := List Premise → Except Misuse (Option (List Formula))

/-- How a rule is grouped in menus: every rule is an inference, some introduce or eliminate a
connective. -/
inductive RuleKind
  | inference
  | introduction
  | elimination
  deriving DecidableEq, Repr

/-- The menu groups of a kind, in alphabetical order. -/
def RuleKind.groups : RuleKind → List String
  | inference => ["inference"]
  | introduction => ["inference", "intro"]
  | elimination => ["elim", "inference"]

/-- A rule of inference. -/
structure Rule where
  name : String
  shortName : String
  kind : RuleKind
  premiseCount : Step → Nat
  subproofCount : Step → Nat
  reorderable : Bool
  check : Check
  advisor : Option Advisor

namespace Rule

/-! ## The shape of a step -/

/-- The first premise that is a subproof where it must be plain, or plain where it must be a
subproof; the subproofs begin at the given index. -/
def misplaced? (firstSubproof : Nat) (premises : List Premise) : Option Diagnostic :=
  premises.zipIdx.findSome? fun (p, i) =>
    if i < firstSubproof ∧ p.isSubproof = true then some (.plainExpected (i + 1))
    else if firstSubproof ≤ i ∧ p.isSubproof = false then some (.subproofExpected (i + 1))
    else none

/-- What is wrong with the number and the kinds of the premises, if anything is. -/
def shapeDiagnostic? (r : Rule) (s : Step) : Option Diagnostic :=
  let expected := r.premiseCount s
  let provided := s.premises.length
  if provided = expected then misplaced? (expected - r.subproofCount s) s.premises
  else some (.premiseCount r.name expected provided)

/-! ## Verifying a step that has the right number of premises -/

/-- Why a step is not even looked at. -/
inductive Violation
  | premiseCount (rule : String) (required given : Nat)
  | misuse (m : Misuse)
  deriving DecidableEq

/-- The text of a refusal to look at a step. -/
def Violation.message : Violation → String
  | premiseCount rule required given =>
    s!"{rule} requires {required} premise(s), called with {given}"
  | misuse _ => "a rule was applied to premises that it is not for"

/-- The verdict on a step: `none` when it is valid. The number of premises must be the rule's. -/
def verify (r : Rule) (s : Step) : Except Violation (Option Diagnostic) :=
  if s.premises.length = r.premiseCount s then
    match r.shapeDiagnostic? s with
    | some d => .ok (some d)
    | none => (r.check s).mapError .misuse
  else .error (.premiseCount r.name (r.premiseCount s) s.premises.length)

/-- Whether the rule proposes conclusions at all. -/
def suggests (r : Rule) : Bool := r.advisor.isSome

/-- The formulas that the rule proposes as conclusions. -/
def propose (r : Rule) (premises : List Premise) : Except Misuse (Option (List Formula)) :=
  match r.advisor with
  | some advise => advise premises
  | none => .ok none

/-- The form in which a rule is shown among values of other kinds. -/
def inspect (r : Rule) : String := "Rule(" ++ Text.quoted r.name ++ ")"

end Rule

/-! ## Ways of writing a check -/

namespace Check

/-- A check of the conclusion against one premise. -/
def ofOne (f : Formula → Formula → Except Misuse (Option Diagnostic)) : Check := fun s =>
  match s.premises with
  | [p] => f s.conclusion p.formula
  | ps => .error (.premiseCount ps.length)

/-- A check of the conclusion against two premises in the order given. -/
def ofTwo (f : Formula → Formula → Formula → Except Misuse (Option Diagnostic)) : Check := fun s =>
  match s.premises with
  | [p, q] => f s.conclusion p.formula q.formula
  | ps => .error (.premiseCount ps.length)

/-- A check of the conclusion against one arrangement of two premises. -/
def arranged (f : Formula → Formula → Formula → Except Misuse Outcome) (conclusion : Formula) :
    List Formula → Except Misuse Outcome
  | [φ, ψ] => f conclusion φ ψ
  | φs => .error (.premiseCount φs.length)

/-- A check of the conclusion against two premises in either order. A premise of the given shape is
missed when neither order is the one that the check is for. -/
def inEitherOrder (f : Formula → Formula → Formula → Except Misuse Outcome) (shape : Shape) :
    Check := fun s =>
  anyOrder (arranged f s.conclusion) (.absentShape shape.text) (s.premises.map Premise.formula)

end Check

/-! ## Ways of writing an advisor -/

namespace Advisor

/-- The formulas of plain premises; `none` if a subproof is among them. -/
def plainFormulas? (premises : List Premise) : Option (List Formula) :=
  premises.mapM fun p => match p with
    | .plain φ => some φ
    | .subproof _ _ => none

/-- An advisor for one plain premise. -/
def ofOne (f : Formula → Except Misuse (Option (List Formula))) : Advisor := fun ps =>
  match plainFormulas? ps with
  | some [φ] => f φ
  | _ => .ok none

/-- An advisor for two plain premises. -/
def ofTwo (f : Formula → Formula → Except Misuse (Option (List Formula))) : Advisor := fun ps =>
  match plainFormulas? ps with
  | some [φ, ψ] => f φ ψ
  | _ => .ok none

/-- Proposals, unless there are none. -/
def unlessEmpty (φs : List Formula) : Option (List Formula) :=
  if φs.isEmpty then none else some φs

/-- At most one conclusion from each order of two formulas, the order given first. -/
def bothOrders (f : Formula → Formula → Except Misuse (Option Formula)) (φ ψ : Formula) :
    Except Misuse (Option (List Formula)) := do
  let first ← f φ ψ
  let second ← f ψ φ
  .ok (unlessEmpty ([first, second].filterMap id))

/-- An advisor for two plain premises that draws at most one conclusion from each of their
orders. -/
def inEitherOrder (f : Formula → Formula → Except Misuse (Option Formula)) : Advisor :=
  ofTwo (bothOrders f)

end Advisor

end NaturalDeduction
