import NaturalDeduction.Proofs.Safety

/-!
# The two ways of verifying

`Rule.verify` is strict about the number of premises and gives a bare diagnostic; the verifier
answers every claim with a verdict. Both ask the same questions of a step in the same order: the
shape first, and the rule's check only when the shape is right. So where the strict one answers at
all, it says what the verdict says.

The number of premises and the number of subproofs among them may depend on the step. Whatever the
step is, there are never more subproofs than premises, so the leading premises that must be plain
and the trailing ones that must be subproofs are well defined.
-/

namespace NaturalDeduction

/-! ## The shape, position by position -/

namespace Rule

/-- The premise at an index is a subproof and comes before the first slot for subproofs, or it is
plain and does not. -/
def Misplaced (firstSubproof : Nat) (ps : List Premise) (i : Nat) : Prop :=
  ∃ p, ps[i]? = some p ∧
    (i < firstSubproof ∧ p.isSubproof = true ∨ firstSubproof ≤ i ∧ p.isSubproof = false)

/-- How a misplaced premise is reported: by its position, from one on, and what it must be. -/
def misplacement (firstSubproof i : Nat) : Diagnostic :=
  if i < firstSubproof then .plainExpected (i + 1) else .subproofExpected (i + 1)

/-- The report begins with the position. -/
theorem message_misplacement (firstSubproof i : Nat) :
    ∃ demand : String,
      (misplacement firstSubproof i).message = s!"Premise {i + 1} must be {demand}" := by
  unfold misplacement
  split
  · have words : " must be a plain expression, not a subproof." =
        " must be " ++ "a plain expression, not a subproof." := by decide
    refine ⟨"a plain expression, not a subproof.", ?_⟩
    show "Premise " ++ toString (i + 1) ++ " must be a plain expression, not a subproof." = _
    rw [words, ← String.append_assoc]
    rfl
  · have words : " must be a subproof." = " must be " ++ "a subproof." := by decide
    refine ⟨"a subproof.", ?_⟩
    show "Premise " ++ toString (i + 1) ++ " must be a subproof." = _
    rw [words, ← String.append_assoc]
    rfl

variable {r : Rule} {s : Step} {n : Nat} {ps : List Premise}

/-- A premise is reported when it is on the wrong side of the first slot for subproofs. -/
theorem report_eq_some_iff {why : Diagnostic} {p : Premise} {i : Nat} :
    (if i < n ∧ p.isSubproof = true then some (Diagnostic.plainExpected (i + 1))
      else if n ≤ i ∧ p.isSubproof = false then some (.subproofExpected (i + 1)) else none) =
        some why ↔
      (i < n ∧ p.isSubproof = true ∨ n ≤ i ∧ p.isSubproof = false) ∧ why = misplacement n i := by
  unfold misplacement
  by_cases leading : i < n
  · simp [leading, Nat.not_le.mpr leading, eq_comm (a := why)]
  · simp [leading, Nat.not_lt.mp leading, eq_comm (a := why)]

/-- What is reported is the first premise that is misplaced. -/
theorem least_of_misplaced? {why : Diagnostic} (h : misplaced? n ps = some why) :
    ∃ i, Misplaced n ps i ∧ (∀ j < i, ¬Misplaced n ps j) ∧ why = misplacement n i := by
  unfold misplaced? at h
  obtain ⟨before, ⟨p, i⟩, after, split_at, reported, passed⟩ := List.findSome?_eq_some_iff.mp h
  have entry (j : Nat) : (before ++ (p, i) :: after)[j]? = ps[j]?.map fun q => (q, j) := by
    rw [← split_at]
    simp
  have here : some (p, i) = ps[before.length]?.map fun q => (q, before.length) := by
    simpa using entry before.length
  obtain ⟨q, found, same⟩ := Option.map_eq_some_iff.mp here.symm
  cases same
  obtain ⟨which, rfl⟩ := report_eq_some_iff.mp reported
  refine ⟨before.length, ⟨p, found, which⟩, ?_, rfl⟩
  rintro j lt ⟨q, found, which⟩
  -- An earlier premise stands before the reported one, where nothing was reported.
  have earlier : (q, j) ∈ before := by
    have inside := entry j
    rw [List.getElem?_append_left lt, found] at inside
    exact List.mem_of_getElem? inside
  have silent := passed (q, j) earlier
  exact absurd (silent.symm.trans (report_eq_some_iff.mpr ⟨which, rfl⟩)) (by simp)

/-- A step has the wrong shape when it has the wrong number of premises, or one of the leading
premises is a subproof, or one of the others is plain. -/
theorem shapeDiagnostic?_ne_none_iff :
    r.shapeDiagnostic? s ≠ none ↔ s.premises.length ≠ r.premiseCount s ∨
      (∃ p ∈ s.premises.take (r.premiseCount s - r.subproofCount s), p.isSubproof = true) ∨
      ∃ p ∈ s.premises.drop (r.premiseCount s - r.subproofCount s), p.isSubproof = false := by
  rw [ne_eq, shapeDiagnostic?_eq_none_iff]
  simp only [not_and_or, not_forall, Bool.not_eq_false, Bool.not_eq_true, exists_prop, ne_eq]

/-! ## The strict way of verifying -/

/-- Where the number of premises is the rule's, the strict way says what the verdict says. -/
theorem verify_eq_of_judge {verdict : Verdict} (judged : Verifier.judge r s = .ok verdict) :
    r.verify s = if s.premises.length = r.premiseCount s then .ok verdict.diagnostic?
      else .error (.premiseCount r.name (r.premiseCount s) s.premises.length) := by
  unfold verify
  split
  · rcases judge_cases judged with ⟨why, shape, rfl⟩ | ⟨shape, ⟨checked, rfl⟩ | ⟨why, checked, rfl⟩⟩
    · simp only [shape, Verdict.diagnostic?]
    · simp only [shape, checked, Verdict.diagnostic?, Except.mapError]
    · simp only [shape, checked, Verdict.diagnostic?, Except.mapError]
  · rfl

/-- With the right number of premises, a mismatch is the report of the first misplaced premise. -/
theorem least_of_judge_shapeMismatch {why : Diagnostic}
    (count : s.premises.length = r.premiseCount s)
    (judged : Verifier.judge r s = .ok (.shapeMismatch why)) :
    ∃ i, Misplaced (r.premiseCount s - r.subproofCount s) s.premises i ∧
      (∀ j < i, ¬Misplaced (r.premiseCount s - r.subproofCount s) s.premises j) ∧
      why = misplacement (r.premiseCount s - r.subproofCount s) i := by
  have shape : r.shapeDiagnostic? s = some why := by
    rcases judge_cases judged with ⟨given, shape, same⟩ | ⟨-, ⟨-, same⟩ | ⟨given, -, same⟩⟩
    · rw [shape, Verdict.shapeMismatch.inj same]
    · cases same
    · cases same
  simp only [shapeDiagnostic?, if_pos count] at shape
  exact least_of_misplaced? shape

end Rule

/-- A verdict without a diagnostic is that the step is valid. -/
theorem Verdict.diagnostic?_eq_none_iff {verdict : Verdict} :
    verdict.diagnostic? = none ↔ verdict = .valid := by
  cases verdict <;> simp [diagnostic?]

/-- No rule of the catalogue takes more subproofs than premises, whatever the step is. -/
theorem RuleId.subproofCount_le_premiseCount (id : RuleId) (s : Step) :
    id.rule.subproofCount s ≤ id.rule.premiseCount s := by
  cases id with
  | conditionalProof => exact Nat.le_refl 1
  | disjunctionElimination => exact Nat.le_add_left (CaseAnalysis.caseCount s) 1
  | _ => exact Nat.zero_le _

/-- The two ways of verifying agree on every claim by a rule of the catalogue, from well-formed
premises. There are no more subproofs than premises. The verifier answers with a verdict; the strict
way refuses exactly when the number of premises is wrong, and gives the diagnostic of the verdict
otherwise, which is missing exactly when the verdict is valid. The verdict is a mismatch exactly
when the number is wrong, a leading premise is a subproof or a trailing one is plain; and when the
number is right, a mismatch names the least position at which that is so. -/
theorem Verifier.verify_agrees_with_strict (v : Verifier) (claim : Claim) (id : RuleId)
    (found : claim.rule.resolve? = some id) (wf : ∀ p ∈ claim.premises, p.WellFormed) :
    ∃ (n k : Nat) (verdict : Verdict),
      n = id.rule.premiseCount claim.toStep ∧ k = id.rule.subproofCount claim.toStep ∧ k ≤ n ∧
      (v.verify claim).outcome = .ok ⟨id, verdict⟩ ∧
      id.rule.verify claim.toStep =
        (if claim.premises.length = n then .ok verdict.diagnostic?
          else .error (.premiseCount id.rule.name n claim.premises.length)) ∧
      (verdict.diagnostic? = none ↔ verdict = .valid) ∧
      ((∃ why, verdict = .shapeMismatch why) ↔ claim.premises.length ≠ n ∨
        (∃ p ∈ claim.premises.take (n - k), p.isSubproof = true) ∨
        ∃ p ∈ claim.premises.drop (n - k), p.isSubproof = false) ∧
      (claim.premises.length = n → ∀ why, verdict = .shapeMismatch why →
        ∃ i, Rule.Misplaced (n - k) claim.premises i ∧
          (∀ j < i, ¬Rule.Misplaced (n - k) claim.premises j) ∧
          why = Rule.misplacement (n - k) i ∧
          ∃ demand : String, why.message = s!"Premise {i + 1} must be {demand}") := by
  obtain ⟨verdict, judged, -⟩ := id.exists_judge claim.conclusion wf
  refine ⟨_, _, verdict, rfl, rfl, id.subproofCount_le_premiseCount claim.toStep, ?_,
    Rule.verify_eq_of_judge judged, Verdict.diagnostic?_eq_none_iff, ?_, ?_⟩
  · rw [verify_eq_verifyBy found, verifyBy_outcome_eq_ok_iff]
    exact ⟨rfl, judged⟩
  · exact (Rule.exists_shapeMismatch_iff judged).trans Rule.shapeDiagnostic?_ne_none_iff
  · rintro count why rfl
    obtain ⟨i, misplaced, least, rfl⟩ := Rule.least_of_judge_shapeMismatch count judged
    exact ⟨i, misplaced, least, rfl, Rule.message_misplacement _ i⟩

/-- A proof by cases of `P ∨ (Q ∨ R)` takes four premises, three of them subproofs. When the second
case is plain, both ways of verifying name the third premise. -/
theorem Verifier.verify_agrees_with_strict_on_plain_case :
    RuleId.disjunctionElimination.rule.verify
      ⟨.atom "S", [.plain (.disj [.atom "P", .disj [.atom "Q", .atom "R"]]),
        .subproof [.atom "P"] (.atom "S"), .plain (.atom "S"), .plain (.atom "S")]⟩ =
      .ok (some (.subproofExpected 3)) := by
  have wf : ∀ p ∈ [Premise.plain (.disj [.atom "P", .disj [.atom "Q", .atom "R"]]),
      .subproof [.atom "P"] (.atom "S"), .plain (.atom "S"), .plain (.atom "S")],
      p.WellFormed := by decide
  obtain ⟨_, _, verdict, rfl, rfl, -, answered, strict, -⟩ := verify_agrees_with_strict {}
    { conclusion := .atom "S"
      premises := [.plain (.disj [.atom "P", .disj [.atom "Q", .atom "R"]]),
        .subproof [.atom "P"] (.atom "S"), .plain (.atom "S"), .plain (.atom "S")]
      rule := .known .disjunctionElimination } .disjunctionElimination rfl wf
  have named : verdict = .shapeMismatch (.subproofExpected 3) := by
    cases answered
    rfl
  rw [named] at strict
  exact strict

end NaturalDeduction
