import NaturalDeduction.Claim
import NaturalDeduction.Log
import NaturalDeduction.Suggestions

/-!
# The verifier

A verifier checks claims and suggests conclusions under its settings. A claim is checked in three
steps: its rule is looked up, the shape of its premises is compared with the rule, and the rule's
own check is run. The verdict never depends on the settings; they decide only how loudly a wrong
shape is reported and how many suggestions are handed out.

Every operation answers with an outcome and the log entries it leaves. An outcome that is a fault
says that the request could not be carried out; a step that does not follow is no fault.
-/

namespace NaturalDeduction

/-- Why a request cannot be carried out. -/
inductive Fault
  | unknownRule (given : Value)
  | notAPremise (kind : Value.Kind)
  /-- The cap on suggestions is negative, or too large to count up to. -/
  | capOutOfRange
  | settings (why : LoadError)
  | misuse (why : Misuse)

/-- A fault in words. -/
def Fault.message : Fault → String
  | unknownRule given => RuleRef.unknownMessage given
  | notAPremise kind => Citation.refusal kind
  | capOutOfRange =>
    "Stop argument for islice() must be None or an integer: 0 <= x <= sys.maxsize."
  | settings why => why.message
  | misuse why => (Rule.Violation.misuse why).message

/-- What came of a request, and the log entries that it left. -/
structure Reply (α : Type) where
  outcome : Except Fault α
  log : List LogEntry := []

/-- The verdict on a step. -/
inductive Verdict
  | valid
  | shapeMismatch (why : Diagnostic)
  | violation (why : Diagnostic)
  deriving DecidableEq

namespace Verdict

/-- The name of a kind of verdict. -/
def name : Verdict → String
  | valid => "valid"
  | shapeMismatch _ => "premise_shape_mismatch"
  | violation _ => "rule_violation"

/-- Why the step was rejected, if it was. -/
def diagnostic? : Verdict → Option Diagnostic
  | valid => none
  | shapeMismatch why | violation why => some why

/-- Whether the rule licenses the step. -/
def isValid : Verdict → Bool
  | valid => true
  | shapeMismatch _ | violation _ => false

end Verdict

/-- The result of a verification: the rule that was looked up, and its verdict. -/
structure Result where
  rule : RuleId
  verdict : Verdict
  deriving DecidableEq

/-- A verifier is determined by its settings. -/
structure Verifier where
  settings : Settings := {}

namespace Verifier

/-- The verdict of a rule on a step. -/
def judge (r : Rule) (s : Step) : Except Misuse Verdict :=
  match r.shapeDiagnostic? s with
  | some why => .ok (.shapeMismatch why)
  | none => (r.check s).map fun
    | none => .valid
    | some why => .violation why

/-- What is logged of a verdict. -/
def logOf (v : Verifier) (id : RuleId) (conclusion : Formula) : Verdict → LogEntry
  | .valid => .accepted id conclusion
  | .shapeMismatch why => .shapeMismatch v.settings.logRejections id why
  | .violation why => .rejected id conclusion why

/-- Checks a step by a rule that is known. -/
def verifyBy (v : Verifier) (id : RuleId) (s : Step) : Reply Result :=
  match judge id.rule s with
  | .ok verdict => { outcome := .ok ⟨id, verdict⟩, log := [v.logOf id s.conclusion verdict] }
  | .error why => { outcome := .error (.misuse why) }

/-- Looks up a rule and goes on with it. -/
def withRule {α : Type} (r : RuleRef) (k : RuleId → Reply α) : Reply α :=
  match r.resolve? with
  | some id => k id
  | none => { outcome := .error (.unknownRule r.recorded) }

/-- Checks a claim. -/
def verify (v : Verifier) (c : Claim) : Reply Result :=
  withRule c.rule fun id => v.verifyBy id c.toStep

/-- Checks a step from what is cited for it. The rule is looked up before the citations. -/
def verifyStep (v : Verifier) (rule : RuleRef) (conclusion : Formula) (cited : List Citation) :
    Reply Result :=
  withRule rule fun id =>
    match Claim.ofCitations conclusion cited (.known id) with
    | .ok c => v.verify c
    | .error kind => { outcome := .error (.notAPremise kind) }

/-- The greatest number of suggestions that can be counted. -/
def maxCap : Int := Nat.pow 2 63 - 1

/-- Suggests conclusions for premises; `none` when the rule has none to suggest for them. -/
def suggest (v : Verifier) (rule : RuleRef) (premises : List Premise) :
    Reply (Option Suggestions) :=
  withRule rule fun id =>
    match id.rule.propose premises with
    | .error why => { outcome := .error (.misuse why) }
    | .ok none => { outcome := .ok none, log := [.noSuggestion id premises.length] }
    | .ok (some φs) =>
      let cap := v.settings.maxSuggestions
      if 0 ≤ cap ∧ cap ≤ maxCap then
        { outcome := .ok (some { pending := φs, left := cap.toNat }) }
      else { outcome := .error .capOutOfRange }

end Verifier

end NaturalDeduction
