import NaturalDeduction.Proofs.Rule.Conditional
import NaturalDeduction.Proofs.Rule.Disjunction
import NaturalDeduction.Proofs.Verifier

/-!
# Which proposals are accepted

An advisor looks at the premises alone, and for two rules it sees less than the check does. The
hypothetical syllogism proposes what the premises chain to in both orders, and its check goes by the
order given when that chains. The proof by cases proposes what all the cases conclude, and does not
look at what they assume, nor at how many of them there should be.

Every other proposal of the two is accepted.
-/

namespace NaturalDeduction

variable {χ : Formula} {ps : List Premise}

/-! ## Chains -/

namespace HypotheticalSyllogism

/-- The premises are an implication and its converse, two different formulas, and the formula is
what they chain to in the order that is not given. -/
def ChainsBack (ps : List Premise) (χ : Formula) : Prop :=
  ∃ a b, a ≠ b ∧ ps = [.plain (.imp a b), .plain (.imp b a)] ∧ χ = .imp b b

/-- What two implications chain to in one of their orders is accepted, unless the other order is the
given one and chains as well. -/
theorem accepts_of_proposes_iff (proposed : rule.Proposes ps χ) :
    rule.Accepts χ ps ↔ ¬ChainsBack ps χ := by
  constructor
  · intro accepted back
    obtain ⟨a, b, differ, rfl, rfl⟩ := back
    exact differ (Formula.imp.inj (accepts_converse_iff.mp accepted)).1.symm
  · intro forward
    rw [accepts_iff]
    obtain ⟨φ, ψ, rfl | rfl, chains⟩ := proposes_iff.mp proposed
    · exact ⟨φ, ψ, rfl, .inl chains⟩
    · obtain ⟨a, b, d, rfl, rfl, rfl⟩ := chains
      refine ⟨_, _, rfl, licenses_imp.mpr ?_⟩
      by_cases both : d = a
      · -- The given order chains too, and to the same formula unless the premises differ.
        subst both
        by_cases same : d = b
        · exact .inl ⟨rfl, by rw [same]⟩
        · exact absurd ⟨b, d, Ne.symm same, rfl, rfl⟩ forward
      · exact .inr ⟨both, rfl, rfl⟩

end HypotheticalSyllogism

/-- Every proposal of the hypothetical syllogism is accepted from the premises that it was made for,
in the order given, with one exception: from `A → B` and `B → A`, where `A` and `B` differ, the
advisor proposes `B → B` too, and the verifier wants `A` for its antecedent. -/
theorem Verifier.accepts_proposed_chain_iff (v : Verifier)
    (proposed : RuleId.hypotheticalSyllogism.rule.Proposes ps χ) :
    (v.Accepts .hypotheticalSyllogism χ ps ↔ ¬HypotheticalSyllogism.ChainsBack ps χ) ∧
    ∀ a b, a ≠ b → ps = [.plain (.imp a b), .plain (.imp b a)] → χ = .imp b b →
      v.Rejects .hypotheticalSyllogism χ ps (.wrongChainStart a b) := by
  constructor
  · rw [accepts_iff]
    exact HypotheticalSyllogism.accepts_of_proposes_iff proposed
  · rintro a b differ rfl rfl
    have checked : HypotheticalSyllogism.rule.check
        ⟨.imp b b, [.plain (.imp a b), .plain (.imp b a)]⟩ = .ok (some (.wrongChainStart a b)) := by
      show HypotheticalSyllogism.diagnose (.imp b b) (.imp a b) (.imp b a) = _
      rw [HypotheticalSyllogism.diagnose_imp]
      simp [differ.symm]
    exact rejects_iff.mpr ⟨rfl, checked⟩

/-- From `P → Q` and `Q → P` the advisor proposes `P → P`, which the verifier accepts, and `Q → Q`,
which it rejects. -/
theorem Verifier.accepts_proposed_chain_of_converse :
    Accepts {} .hypotheticalSyllogism (.imp (.atom "P") (.atom "P"))
        [.plain (.imp (.atom "P") (.atom "Q")), .plain (.imp (.atom "Q") (.atom "P"))] ∧
      Rejects {} .hypotheticalSyllogism (.imp (.atom "Q") (.atom "Q"))
        [.plain (.imp (.atom "P") (.atom "Q")), .plain (.imp (.atom "Q") (.atom "P"))]
        (.wrongChainStart (.atom "P") (.atom "Q")) := by
  have proposes : ∀ χ ∈ [Formula.imp (.atom "P") (.atom "P"), .imp (.atom "Q") (.atom "Q")],
      RuleId.hypotheticalSyllogism.rule.Proposes
        [.plain (.imp (.atom "P") (.atom "Q")), .plain (.imp (.atom "Q") (.atom "P"))] χ :=
    fun χ mem => ⟨_, rfl, mem⟩
  constructor
  · refine (accepts_proposed_chain_iff {} (proposes _ List.mem_cons_self)).1.mpr fun back => ?_
    obtain ⟨a, b, differ, premises, reached⟩ := back
    obtain ⟨rfl, -⟩ := Formula.imp.inj reached
    have first := (Formula.imp.inj (Premise.plain.inj (List.cons.inj premises).1)).1
    exact differ first.symm
  · exact (accepts_proposed_chain_iff {} (proposes _ (List.mem_cons_of_mem _ List.mem_cons_self))).2
      _ _ (by decide) rfl rfl

/-- From `P → Q` and `Q → P` the verifier does not accept `Q → Q`, which is proposed for them. -/
theorem Verifier.rejects_proposed_chain :
    ¬∀ (ps : List Premise) (χ : Formula), (∀ p ∈ ps, p.WellFormed) →
      RuleId.hypotheticalSyllogism.rule.Proposes ps χ → Accepts {} .hypotheticalSyllogism χ ps := by
  intro accepts
  have accepted := accepts
    [.plain (.imp (.atom "P") (.atom "Q")), .plain (.imp (.atom "Q") (.atom "P"))]
    (.imp (.atom "Q") (.atom "Q")) (by decide)
    ⟨[.imp (.atom "P") (.atom "P"), .imp (.atom "Q") (.atom "Q")], rfl,
      List.mem_cons_of_mem _ List.mem_cons_self⟩
  have rejected : Rejects {} .hypotheticalSyllogism (.imp (.atom "Q") (.atom "Q"))
      [.plain (.imp (.atom "P") (.atom "Q")), .plain (.imp (.atom "Q") (.atom "P"))]
      (.wrongChainStart (.atom "P") (.atom "Q")) := rfl
  cases accepted.symm.trans rejected

/-! ## Proofs by cases -/

namespace CaseAnalysis

/-- After a disjunction come as many cases as it has disjuncts once flattened, each a subproof from
one assumption, and the assumptions are the disjuncts. -/
def IsComplete (ps : List Premise) : Prop :=
  ∃ φs, ∃ cases : List (Formula × Formula),
    ps = .plain (.disj φs) :: cases.map (fun (assumption, shown) => .subproof [assumption] shown) ∧
    cases.length = (Formula.disj φs).flatten.operands.length ∧
    ∀ d, d ∈ cases.map Prod.fst ↔ d ∈ (Formula.disj φs).flatten.operands

/-- Complete cases that all show the same are accepted for it. -/
theorem accepts_of_proposes (proposed : rule.Proposes ps χ) (complete : IsComplete ps) :
    rule.Accepts χ ps := by
  obtain ⟨φs, cases, rfl, count, covered⟩ := complete
  obtain ⟨ψs, rest, same, -, each⟩ := proposes_iff.mp proposed
  cases same
  refine accepts_iff.mpr ⟨φs, cases.map Prod.fst, ?_, by rw [List.length_map, count], covered⟩
  rw [List.map_map]
  refine congrArg _ (List.map_congr_left fun case mem => ?_)
  obtain ⟨assumption, shown⟩ := case
  have conclusion : shown = χ := (each _ (List.mem_map_of_mem mem)).2
  rw [conclusion]
  rfl

/-- Cases are accepted only when they are complete. -/
theorem isComplete_of_accepts (accepted : rule.Accepts χ ps) : IsComplete ps := by
  obtain ⟨φs, ds, rfl, count, covered⟩ := accepts_iff.mp accepted
  refine ⟨φs, ds.map (·, χ), ?_, by rw [List.length_map, count], fun d => ?_⟩
  · rw [List.map_map]
    rfl
  · rw [List.map_map, ← covered]
    simp

/-- A well-formed disjunction has two cases or more, so what its cases show is proposed. -/
theorem proposes_of_accepts (wf : ∀ p ∈ ps, p.WellFormed) (accepted : rule.Accepts χ ps) :
    rule.Proposes ps χ := by
  obtain ⟨φs, ds, rfl, count, -⟩ := accepts_iff.mp accepted
  have wfδ : (Formula.disj φs).WellFormed := wf (.plain _) List.mem_cons_self
  have two : 2 ≤ (Formula.disj φs).flatten.operands.length := wfδ.flatten.of_junction.1
  refine proposes_iff.mpr ⟨φs, _, rfl, by rw [List.length_map, count]; exact two, fun p mem => ?_⟩
  obtain ⟨d, -, rfl⟩ := List.mem_map.mp mem
  exact ⟨rfl, rfl⟩

end CaseAnalysis

/-- From well-formed premises the verifier accepts by cases exactly what is proposed for them when
the cases are complete. Where the advisor applies and the cases are not complete, the proposal is
refused. -/
theorem Verifier.accepts_iff_proposed_and_complete (v : Verifier)
    (wf : ∀ p ∈ ps, p.WellFormed) :
    v.Accepts .disjunctionElimination χ ps ↔
      RuleId.disjunctionElimination.rule.Proposes ps χ ∧ CaseAnalysis.IsComplete ps := by
  rw [accepts_iff]
  constructor
  · intro accepted
    exact ⟨CaseAnalysis.proposes_of_accepts wf accepted, CaseAnalysis.isComplete_of_accepts accepted⟩
  · intro h
    exact CaseAnalysis.accepts_of_proposes h.1 h.2

/-- From `P ∨ (Q ∨ P)` and a case for each of its three disjuncts, not in their order, the verifier
accepts what all cases show. -/
theorem Verifier.accepts_proposed_of_three_cases :
    Accepts {} .disjunctionElimination (.atom "R")
      [.plain (.disj [.atom "P", .disj [.atom "Q", .atom "P"]]),
        .subproof [.atom "Q"] (.atom "R"), .subproof [.atom "P"] (.atom "R"),
        .subproof [.atom "P"] (.atom "R")] := by
  have proposed : RuleId.disjunctionElimination.rule.Proposes
      [.plain (.disj [.atom "P", .disj [.atom "Q", .atom "P"]]),
        .subproof [.atom "Q"] (.atom "R"), .subproof [.atom "P"] (.atom "R"),
        .subproof [.atom "P"] (.atom "R")] (.atom "R") := ⟨_, rfl, List.mem_cons_self⟩
  refine (accepts_iff_proposed_and_complete {} (by decide)).mpr ⟨proposed, ?_⟩
  refine ⟨_, [(.atom "Q", .atom "R"), (.atom "P", .atom "R"), (.atom "P", .atom "R")], rfl, rfl,
    fun d => ?_⟩
  show d ∈ [Formula.atom "Q", .atom "P", .atom "P"] ↔ d ∈ [Formula.atom "P", .atom "Q", .atom "P"]
  exact (List.Perm.swap _ _ _).mem_iff

/-- From `P ∨ Q ∨ S` and the cases `[P ⊢ R]` and `[Q ⊢ R]` the advisor proposes `R`, and the
verifier misses a case. With one case for each disjunct `R` is proposed for `P ∨ Q`, `[P, S ⊢ R]`
and `[Q ⊢ R]`, and the verifier refuses the case of two assumptions. -/
theorem Verifier.rejects_proposed_of_cases :
    (¬∀ (ps : List Premise) (χ : Formula), (∀ p ∈ ps, p.WellFormed) →
      RuleId.disjunctionElimination.rule.Proposes ps χ →
        Accepts {} .disjunctionElimination χ ps) ∧
    ¬∀ (φs : List Formula) (cases : List Premise) (χ : Formula),
      (∀ p ∈ .plain (.disj φs) :: cases, p.WellFormed) →
      cases.length = (Formula.disj φs).flatten.operands.length →
      RuleId.disjunctionElimination.rule.Proposes (.plain (.disj φs) :: cases) χ →
        Accepts {} .disjunctionElimination χ (.plain (.disj φs) :: cases) := by
  constructor
  · intro accepts
    have accepted := accepts
      [.plain (.disj [.atom "P", .atom "Q", .atom "S"]), .subproof [.atom "P"] (.atom "R"),
        .subproof [.atom "Q"] (.atom "R")]
      (.atom "R") (by decide) ⟨_, rfl, List.mem_cons_self⟩
    have missed : (Verifier.verifyStep {} (.known .disjunctionElimination) (.atom "R")
        ([.plain (.disj [.atom "P", .atom "Q", .atom "S"]), .subproof [.atom "P"] (.atom "R"),
          .subproof [.atom "Q"] (.atom "R")].map .premise)).outcome =
        .ok ⟨.disjunctionElimination,
          .shapeMismatch (.premiseCount CaseAnalysis.rule.name 4 3)⟩ := rfl
    cases accepted.symm.trans missed
  · intro accepts
    have accepted := accepts [.atom "P", .atom "Q"]
      [.subproof [.atom "P", .atom "S"] (.atom "R"), .subproof [.atom "Q"] (.atom "R")]
      (.atom "R") (by decide) rfl ⟨_, rfl, List.mem_cons_self⟩
    have refused : Rejects {} .disjunctionElimination (.atom "R")
        [.plain (.disj [.atom "P", .atom "Q"]), .subproof [.atom "P", .atom "S"] (.atom "R"),
          .subproof [.atom "Q"] (.atom "R")]
        (.caseAssumptions (.subproof [.atom "P", .atom "S"] (.atom "R")) 2) := rfl
    cases accepted.symm.trans refused

end NaturalDeduction
