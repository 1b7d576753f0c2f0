import NaturalDeduction.Proofs.Rule.Answer

/-!
# What the verifier says

A rule that is found is asked for its verdict, and the verdict is the verifier's. So what is known
of the rules carries over to the entry points, whatever the settings are.
-/

namespace NaturalDeduction

namespace Verdict

/-- A step is valid when there is nothing to say against it. -/
theorem isValid_iff_diagnostic?_eq_none (verdict : Verdict) :
    verdict.isValid = true ↔ verdict.diagnostic? = none := by
  cases verdict <;> simp [isValid, diagnostic?]

/-- A verdict is of one of three kinds: valid, a mismatch of the shape, or neither. -/
theorem name_eq_name_iff {x y : Verdict} :
    x.name = y.name ↔ (x = .valid ↔ y = .valid) ∧
      ((∃ why, x = .shapeMismatch why) ↔ ∃ why, y = .shapeMismatch why) := by
  cases x <;> cases y <;> simp [name]

end Verdict

/-- The shape decides one of the three kinds and acceptance another. So steps that both have the
shape of the rule, or both have not, get verdicts of the same kind exactly when both are accepted or
neither is. -/
theorem Rule.name_eq_name_iff_accepts {r : Rule} {s t : Step} {x y : Verdict}
    (first : Verifier.judge r s = .ok x) (second : Verifier.judge r t = .ok y)
    (shapes : r.shapeDiagnostic? s = none ↔ r.shapeDiagnostic? t = none) :
    x.name = y.name ↔
      (r.Accepts s.conclusion s.premises ↔ r.Accepts t.conclusion t.premises) := by
  have mismatches : (∃ why, x = .shapeMismatch why) ↔ ∃ why, y = .shapeMismatch why := by
    rw [exists_shapeMismatch_iff first, exists_shapeMismatch_iff second]
    exact not_congr shapes
  rw [Verdict.name_eq_name_iff, eq_valid_iff_accepts first, eq_valid_iff_accepts second]
  exact and_iff_left mismatches

/-- Premises that are cited are the premises of the claim. -/
theorem Claim.ofCitations_premises (c : Formula) (ps : List Premise) (r : RuleRef) :
    Claim.ofCitations c (ps.map .premise) r = .ok { conclusion := c, premises := ps, rule := r } := by
  have read : (ps.map Citation.premise).mapM Citation.premise? = .ok ps := by
    induction ps with
    | nil => rfl
    | cons p ps ih =>
      rw [List.map_cons, List.mapM_cons, Citation.premise?, ok_bind, ih]
      rfl
  rw [Claim.ofCitations, read]
  rfl

namespace Verifier

variable {v : Verifier} {r : RuleRef} {id : RuleId} {c : Formula} {ps : List Premise}

/-- A claim is checked by the rule that its reference resolves to. -/
theorem verify_eq_verifyBy {claim : Claim} (found : claim.rule.resolve? = some id) :
    v.verify claim = v.verifyBy id claim.toStep := by
  rw [verify, withRule, found]

theorem verifyStep_eq_verifyBy (found : r.resolve? = some id) :
    v.verifyStep r c (ps.map .premise) = v.verifyBy id ⟨c, ps⟩ := by
  rw [verifyStep, withRule, found]
  simp only [Claim.ofCitations_premises]
  exact verify_eq_verifyBy rfl

/-- A check comes out with the verdict of the rule. -/
theorem verifyBy_outcome_eq_ok_iff {s : Step} {result : Result} :
    (v.verifyBy id s).outcome = .ok result ↔
      result.rule = id ∧ judge id.rule s = .ok result.verdict := by
  obtain ⟨named, verdict⟩ := result
  unfold verifyBy
  cases judge id.rule s with
  | error why => simp only [reduceCtorEq, and_false]
  | ok given => simp only [Except.ok.injEq, Result.mk.injEq, eq_comm]

theorem verifyStep_outcome_eq_ok_iff {verdict : Verdict} :
    (v.verifyStep (.known id) c (ps.map .premise)).outcome = .ok ⟨id, verdict⟩ ↔
      judge id.rule ⟨c, ps⟩ = .ok verdict := by
  rw [verifyStep_eq_verifyBy rfl, verifyBy_outcome_eq_ok_iff]
  exact and_iff_right rfl

/-- Requests with the same outcome for every rule have the same outcome for every reference. -/
theorem withRule_outcome_congr {α : Type} {k k' : RuleId → Reply α}
    (h : ∀ id, (k id).outcome = (k' id).outcome) (r : RuleRef) :
    (withRule r k).outcome = (withRule r k').outcome := by
  unfold withRule
  cases r.resolve? with
  | none => rfl
  | some id => exact h id

/-- The settings do not matter to what comes of a claim. -/
theorem verify_outcome_eq (v w : Verifier) (claim : Claim) :
    (v.verify claim).outcome = (w.verify claim).outcome := by
  refine withRule_outcome_congr (fun id => ?_) claim.rule
  unfold verifyBy
  cases judge id.rule claim.toStep <;> rfl

/-- The settings do not matter to what comes of a step. -/
theorem verifyStep_outcome_eq (v w : Verifier) (r : RuleRef) (c : Formula)
    (cited : List Citation) :
    (v.verifyStep r c cited).outcome = (w.verifyStep r c cited).outcome := by
  refine withRule_outcome_congr (fun id => ?_) r
  cases Claim.ofCitations c cited (.known id) with
  | error kind => rfl
  | ok claim => exact verify_outcome_eq v w claim

/-- A result is that of a rule that was found. -/
theorem exists_judge_of_verifyStep {result : Result}
    (h : (v.verifyStep r c (ps.map .premise)).outcome = .ok result) :
    r.resolve? = some result.rule ∧ judge result.rule.rule ⟨c, ps⟩ = .ok result.verdict := by
  cases found : r.resolve? with
  | none =>
    rw [verifyStep, withRule, found] at h
    cases h
  | some id =>
    rw [verifyStep_eq_verifyBy found, verifyBy_outcome_eq_ok_iff] at h
    obtain ⟨rfl, judged⟩ := h
    exact ⟨rfl, judged⟩

/-- The verifier finds the step valid by a rule. -/
def Accepts (v : Verifier) (id : RuleId) (c : Formula) (ps : List Premise) : Prop :=
  (v.verifyStep (.known id) c (ps.map .premise)).outcome = .ok ⟨id, .valid⟩

/-- The verifier accepts what the rule accepts, whatever its settings are. -/
theorem accepts_iff : v.Accepts id c ps ↔ id.rule.Accepts c ps := verifyStep_outcome_eq_ok_iff

/-- The verifier rejects the step by a rule, and the rule's own check says why. -/
def Rejects (v : Verifier) (id : RuleId) (c : Formula) (ps : List Premise) (why : Diagnostic) :
    Prop :=
  (v.verifyStep (.known id) c (ps.map .premise)).outcome = .ok ⟨id, .violation why⟩

/-- The verifier rejects what fits the shape and has the check speak against it. -/
theorem rejects_iff {why : Diagnostic} :
    v.Rejects id c ps why ↔
      id.rule.shapeDiagnostic? ⟨c, ps⟩ = none ∧ id.rule.check ⟨c, ps⟩ = .ok (some why) := by
  rw [Rejects, verifyStep_outcome_eq_ok_iff, Rule.judge_eq_violation_iff]

/-- The verifier gives both steps a verdict by the rule, of the same kind. -/
def SameKind (v : Verifier) (id : RuleId) (s t : Step) : Prop :=
  ∃ x y : Verdict,
    (v.verifyStep (.known id) s.conclusion (s.premises.map .premise)).outcome = .ok ⟨id, x⟩ ∧
    (v.verifyStep (.known id) t.conclusion (t.premises.map .premise)).outcome = .ok ⟨id, y⟩ ∧
    x.name = y.name

/-- Steps get verdicts of the same kind if both have the shape of the rule or neither, the check
answers those that have it, and both are accepted or neither. -/
theorem sameKind_of_accepts_iff {s t : Step}
    (first : id.rule.shapeDiagnostic? s = none → Answers (id.rule.check s))
    (second : id.rule.shapeDiagnostic? t = none → Answers (id.rule.check t))
    (shapes : id.rule.shapeDiagnostic? s = none ↔ id.rule.shapeDiagnostic? t = none)
    (accepts : id.rule.Accepts s.conclusion s.premises ↔
      id.rule.Accepts t.conclusion t.premises) : v.SameKind id s t := by
  obtain ⟨x, judged, -⟩ := Rule.judge_answers first
  obtain ⟨y, judged', -⟩ := Rule.judge_answers second
  have kind : x.name = y.name := (Rule.name_eq_name_iff_accepts judged judged' shapes).mpr accepts
  exact ⟨x, y, verifyStep_outcome_eq_ok_iff.mpr judged,
    verifyStep_outcome_eq_ok_iff.mpr judged', kind⟩

end Verifier

end NaturalDeduction
