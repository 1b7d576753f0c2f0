import NaturalDeduction.Proofs.Reordering

/-!
# Rules that count their premises by the step

The introduction of conjunctions takes one premise for each conjunct of the conclusion, and the
proof by cases one case for each disjunct of the first premise. Both compare a list of premises with
a list of operands: they are to be as many, and to have the same members. A repeated operand is met
by a premise that is given twice, or by one more for another operand.

Neither the number nor the members depend on the order, so the kind of the verdict does not either.
-/

namespace NaturalDeduction

variable {c c' : Formula} {ps qs : List Premise}

/-! ## Conjunctions -/

namespace Conjunction

/-- Conjunctions count their operands, and other conclusions two premises. -/
theorem premiseCount_congr (head : c.connective = c'.connective)
    (operands : c.operands.Perm c'.operands) (ps qs : List Premise) :
    premiseCount ⟨c, ps⟩ = premiseCount ⟨c', qs⟩ := by
  by_cases conj : c.connective = .conjunction
  · obtain ⟨φs, rfl⟩ := (Formula.connective_eq_junction (j := .conj)).mp conj
    obtain ⟨φs', rfl⟩ := (Formula.connective_eq_junction (j := .conj)).mp (head.symm.trans conj)
    exact operands.length_eq
  · have two {d : Formula} {rs : List Premise} (other : d.connective ≠ .conjunction) :
        premiseCount ⟨d, rs⟩ = 2 := by
      unfold premiseCount
      split
      · next same => exact absurd (congrArg Formula.connective same) other
      · rfl
    rw [two conj, two fun conj' => conj (head.trans conj')]

end Conjunction

/-- The verifier accepts a conjunction exactly from plain premises that are as many as its operands
and have the same members. What kind of verdict it gives does not depend on the order of the
premises, nor on that of the operands. -/
theorem Verifier.accepts_conjunction_iff (v : Verifier) (c : Formula) (ps : List Premise) :
    (v.Accepts .conjunction c ps ↔
      c.connective = .conjunction ∧ (∀ p ∈ ps, p.isSubproof = false) ∧
        ps.length = c.operands.length ∧ ∀ χ, χ ∈ ps.map Premise.formula ↔ χ ∈ c.operands) ∧
    ∀ c' qs, c.connective = c'.connective → c.operands.Perm c'.operands → ps.Perm qs →
      v.SameKind .conjunction ⟨c, ps⟩ ⟨c', qs⟩ := by
  constructor
  · rw [accepts_iff]
    exact Conjunction.accepts_iff_same_members
  · intro c' qs head operands perm
    have count := Conjunction.premiseCount_congr head operands ps qs
    exact sameKind_of_accepts_iff (fun _ => Conjunction.answers) (fun _ => Conjunction.answers)
      (Rule.shapeDiagnostic?_eq_none_perm (fun _ => rfl) count perm)
      (Conjunction.accepts_iff_of_perm head operands perm)

/-- The verifier accepts `P ∧ Q ∧ P` from `Q`, `P` and `Q`, which give the conjunct `Q` twice, and
treats `P ∧ P ∧ Q` from `P`, `Q` and `Q` alike. -/
theorem Verifier.accepts_conjunction_of_repeated_premise :
    Accepts {} .conjunction (.conj [.atom "P", .atom "Q", .atom "P"])
        [.plain (.atom "Q"), .plain (.atom "P"), .plain (.atom "Q")] ∧
      SameKind {} .conjunction
        ⟨.conj [.atom "P", .atom "Q", .atom "P"],
          [.plain (.atom "Q"), .plain (.atom "P"), .plain (.atom "Q")]⟩
        ⟨.conj [.atom "P", .atom "P", .atom "Q"],
          [.plain (.atom "P"), .plain (.atom "Q"), .plain (.atom "Q")]⟩ := by
  obtain ⟨accepts, alike⟩ := accepts_conjunction_iff {} (.conj [.atom "P", .atom "Q", .atom "P"])
    [.plain (.atom "Q"), .plain (.atom "P"), .plain (.atom "Q")]
  constructor
  · refine accepts.mpr ⟨rfl, by decide, rfl, fun χ => ?_⟩
    show χ ∈ [Formula.atom "Q", .atom "P", .atom "Q"] ↔ χ ∈ [Formula.atom "P", .atom "Q", .atom "P"]
    simp only [List.mem_cons, List.not_mem_nil, or_false]
    tauto
  · exact alike (.conj [.atom "P", .atom "P", .atom "Q"]) _ rfl (.cons _ (.swap _ _ _))
      (.swap _ _ _)

/-! ## Proofs by cases -/

namespace CaseAnalysis

/-- The same by what can be counted and compared of whatever premises: after a disjunction there are
as many as it has disjuncts, each is a subproof of the conclusion from one assumption, and the
assumptions are the disjuncts. -/
theorem accepts_iff_same_members :
    rule.Accepts c ps ↔ ∃ φs, ps.head? = some (.plain (.disj φs)) ∧
      ps.tail.length = (Formula.disj φs).flatten.operands.length ∧
      (∀ p ∈ ps.tail, ∃ d, p = .subproof [d] c) ∧
      ∀ d, .subproof [d] c ∈ ps.tail ↔ d ∈ (Formula.disj φs).flatten.operands := by
  have assumed (d : Formula) (ds : List Formula) : .subproof [d] c ∈ ds.map (caseOf c) ↔ d ∈ ds :=
    List.mem_map_of_injective (caseOf_injective c)
  rw [accepts_iff]
  constructor
  · intro h
    obtain ⟨φs, ds, rfl, count, mem⟩ := h
    refine ⟨φs, rfl, (List.length_map _).trans count, fun p inside => ?_, fun d => ?_⟩
    · obtain ⟨d, -, rfl⟩ := List.mem_map.mp inside
      exact ⟨d, rfl⟩
    · exact (assumed d ds).trans (mem d)
  · intro h
    obtain ⟨φs, head, count, each, mem⟩ := h
    obtain ⟨cases, rfl⟩ := List.head?_eq_some_iff.mp head
    rw [List.tail_cons] at count each mem
    obtain ⟨ds, rfl, -⟩ := exists_map_caseOf fun p inside => by
      obtain ⟨d, rfl⟩ := each p inside
      exact ⟨d, (mem d).mp inside, rfl⟩
    refine ⟨φs, ds, rfl, (List.length_map _).symm.trans count, fun d => ?_⟩
    exact (assumed d ds).symm.trans (mem d)

/-- The number of cases is read off the first premise. -/
theorem caseCount_congr (head : ps.head? = qs.head?) : caseCount ⟨c, ps⟩ = caseCount ⟨c, qs⟩ := by
  cases ps with
  | nil =>
    obtain rfl : qs = [] := List.head?_eq_none_iff.mp head.symm
    rfl
  | cons p cases =>
    obtain ⟨cases', rfl⟩ := List.head?_eq_some_iff.mp head.symm
    cases p with
    | subproof assumptions ψ => rfl
    | plain φ =>
      cases φ with
      | junction j φs => cases j <;> rfl
      | _ => rfl

/-- The shape fits when a plain premise comes first and then subproofs, one for each case. -/
theorem shapeDiagnostic?_eq_none_iff_tail :
    rule.shapeDiagnostic? ⟨c, ps⟩ = none ↔ (∃ δ, ps.head? = some (.plain δ)) ∧
      ps.tail.length = caseCount ⟨c, ps⟩ ∧ ∀ p ∈ ps.tail, p.isSubproof = true := by
  rw [shapeDiagnostic?_eq_none_iff]
  constructor
  · intro h
    obtain ⟨δ, cases, rfl, shape⟩ := h
    exact ⟨⟨δ, rfl⟩, shape⟩
  · intro h
    obtain ⟨⟨δ, head⟩, shape⟩ := h
    obtain ⟨cases, rfl⟩ := List.head?_eq_some_iff.mp head
    exact ⟨δ, cases, rfl, shape⟩

end CaseAnalysis

/-- The verifier accepts a proof by cases exactly when the first premise is a disjunction, and as
many subproofs follow as it has disjuncts once flattened, each of the conclusion from one
assumption, and the assumptions are the disjuncts. What kind of verdict it gives does not depend on
the order of the premises after the first, whatever they are. -/
theorem Verifier.accepts_cases_iff (v : Verifier) (c : Formula) (ps : List Premise) :
    (v.Accepts .disjunctionElimination c ps ↔ ∃ φs, ps.head? = some (.plain (.disj φs)) ∧
      ps.tail.length = (Formula.disj φs).flatten.operands.length ∧
      (∀ p ∈ ps.tail, ∃ d, p = .subproof [d] c) ∧
      ∀ d, .subproof [d] c ∈ ps.tail ↔ d ∈ (Formula.disj φs).flatten.operands) ∧
    ∀ qs, ps.head? = qs.head? → ps.tail.Perm qs.tail →
      v.SameKind .disjunctionElimination ⟨c, ps⟩ ⟨c, qs⟩ := by
  constructor
  · rw [accepts_iff]
    exact CaseAnalysis.accepts_iff_same_members
  · intro qs head perm
    have shapes : CaseAnalysis.rule.shapeDiagnostic? ⟨c, ps⟩ = none ↔
        CaseAnalysis.rule.shapeDiagnostic? ⟨c, qs⟩ = none := by
      simp only [CaseAnalysis.shapeDiagnostic?_eq_none_iff_tail, CaseAnalysis.caseCount_congr head,
        head, perm.length_eq, perm.mem_iff]
    have accepts : CaseAnalysis.rule.Accepts c ps ↔ CaseAnalysis.rule.Accepts c qs := by
      simp only [CaseAnalysis.accepts_iff_same_members, head, perm.length_eq, perm.mem_iff]
    exact sameKind_of_accepts_iff CaseAnalysis.answers CaseAnalysis.answers shapes accepts

/-- From `P ∨ (Q ∨ P)` and the cases `[Q ⊢ R]`, `[P ⊢ R]` and `[Q ⊢ R]` the verifier accepts `R`,
and treats the cases in another order alike. -/
theorem Verifier.accepts_cases_of_repeated_case :
    Accepts {} .disjunctionElimination (.atom "R")
        [.plain (.disj [.atom "P", .disj [.atom "Q", .atom "P"]]),
          .subproof [.atom "Q"] (.atom "R"), .subproof [.atom "P"] (.atom "R"),
          .subproof [.atom "Q"] (.atom "R")] ∧
      SameKind {} .disjunctionElimination
        ⟨.atom "R", [.plain (.disj [.atom "P", .disj [.atom "Q", .atom "P"]]),
          .subproof [.atom "Q"] (.atom "R"), .subproof [.atom "P"] (.atom "R"),
          .subproof [.atom "Q"] (.atom "R")]⟩
        ⟨.atom "R", [.plain (.disj [.atom "P", .disj [.atom "Q", .atom "P"]]),
          .subproof [.atom "P"] (.atom "R"), .subproof [.atom "Q"] (.atom "R"),
          .subproof [.atom "Q"] (.atom "R")]⟩ := by
  obtain ⟨accepts, alike⟩ := accepts_cases_iff {} (.atom "R")
    [.plain (.disj [.atom "P", .disj [.atom "Q", .atom "P"]]),
      .subproof [.atom "Q"] (.atom "R"), .subproof [.atom "P"] (.atom "R"),
      .subproof [.atom "Q"] (.atom "R")]
  constructor
  · refine accepts.mpr ⟨_, rfl, rfl, by simp, fun d => ?_⟩
    show _ ↔ d ∈ [Formula.atom "P", .atom "Q", .atom "P"]
    simp only [List.tail_cons, List.mem_cons, List.not_mem_nil, or_false, Premise.subproof.injEq,
      List.cons.injEq, and_true]
    tauto
  · exact alike _ rfl (.swap _ _ _)

end NaturalDeduction
