import NaturalDeduction.Proofs.Safety

/-!
# Reordering the premises

A rule that allows it gives the same kind of verdict on its premises in any order. The hypothetical
syllogism is the exception: it looks at the order given first, so where two different implications
chain both ways the order decides which of the two conclusions is the valid one.
-/

namespace NaturalDeduction

variable {c : Formula} {ps qs : List Premise}

/-! ## The shape of a step does not depend on the order -/

/-- A rule without subproofs sees the shape in the number and the kinds of the premises. -/
theorem Rule.shapeDiagnostic?_eq_none_perm {r : Rule} {c' : Formula}
    (none : ∀ s, r.subproofCount s = 0)
    (count : r.premiseCount ⟨c, ps⟩ = r.premiseCount ⟨c', qs⟩) (perm : ps.Perm qs) :
    r.shapeDiagnostic? ⟨c, ps⟩ = .none ↔ r.shapeDiagnostic? ⟨c', qs⟩ = .none := by
  rw [shapeDiagnostic?_eq_none_iff_forall (none _), shapeDiagnostic?_eq_none_iff_forall (none _)]
  simp only [count, perm.length_eq, perm.mem_iff]

/-- A rule that allows reordering takes plain premises, as many as the conclusion asks for. -/
theorem RuleId.counts_of_reorderable {id : RuleId} (reorderable : id.rule.reorderable = true) :
    (∀ s, id.rule.subproofCount s = 0) ∧
      ∀ c ps qs, id.rule.premiseCount ⟨c, ps⟩ = id.rule.premiseCount ⟨c, qs⟩ := by
  cases id <;> first
    | exact ⟨fun _ => rfl, fun _ _ _ => rfl⟩
    | cases reorderable

/-! ## What is accepted -/

/-- What holds of two premises in either order holds of them rearranged. -/
theorem exists_inEitherOrder_perm {P : Formula → Formula → Prop} (perm : ps.Perm qs) :
    (∃ φ ψ, InEitherOrder ps φ ψ ∧ P φ ψ) ↔ ∃ φ ψ, InEitherOrder qs φ ψ ∧ P φ ψ := by
  constructor
  · intro h
    obtain ⟨φ, ψ, pair, holds⟩ := h
    exact ⟨φ, ψ, pair.perm perm, holds⟩
  · intro h
    obtain ⟨φ, ψ, pair, holds⟩ := h
    exact ⟨φ, ψ, pair.perm perm.symm, holds⟩

namespace Conjunction

/-- The rule does not look at the order of the premises, nor at that of the conjuncts. -/
theorem accepts_iff_of_perm {c' : Formula} (head : c.connective = c'.connective)
    (operands : c.operands.Perm c'.operands) (perm : ps.Perm qs) :
    rule.Accepts c ps ↔ rule.Accepts c' qs := by
  simp only [accepts_iff_same_members, head, operands.length_eq, operands.mem_iff, perm.length_eq,
    perm.mem_iff, (perm.map Premise.formula).mem_iff]

end Conjunction

namespace HypotheticalSyllogism

/-- Two different implications chain both ways, the second order of the premises is the other than
the first, and the conclusion is what one of the orders chains to. -/
def OrderDecides (c : Formula) (ps qs : List Premise) : Prop :=
  ∃ a b, a ≠ b ∧ ps = [.plain (.imp a b), .plain (.imp b a)] ∧
    qs = [.plain (.imp b a), .plain (.imp a b)] ∧ (c = .imp a a ∨ c = .imp b b)

/-- If one order decides against the other, the two orders differ both ways. -/
theorem OrderDecides.symm (h : OrderDecides c ps qs) : OrderDecides c qs ps := by
  obtain ⟨a, b, differ, first, second, either⟩ := h
  exact ⟨b, a, differ.symm, second, first, either.symm⟩

/-- What is accepted in one order and not in another is decided by the order. -/
theorem orderDecides_of_accepts (perm : ps.Perm qs) (accepted : rule.Accepts c ps)
    (refused : ¬rule.Accepts c qs) : OrderDecides c ps qs := by
  obtain ⟨φ, ψ, rfl, licenses⟩ := accepts_iff.mp accepted
  have swapped : qs = [.plain ψ, .plain φ] := by
    rcases List.pair_perm.mp perm with rfl | rfl
    · exact absurd accepted refused
    · rfl
  subst swapped
  have unlicensed : ¬Licenses ψ φ c := fun other => refused (accepts_iff.mpr ⟨ψ, φ, rfl, other⟩)
  rcases licenses with ⟨a, b, d, rfl, rfl, rfl⟩ | ⟨-, chains⟩
  · rw [licenses_imp, not_or] at unlicensed
    -- The other order chains as well, or it would fall back on this one.
    have back : d = a := by
      by_contra chained
      exact unlicensed.2 ⟨chained, rfl, rfl⟩
    subst back
    refine ⟨d, b, ?_, rfl, rfl, .inl rfl⟩
    intro same
    exact unlicensed.1 ⟨rfl, by rw [same]⟩
  · exact absurd (.inl chains) unlicensed

/-- For a chain the order counts only where it decides. -/
theorem accepts_iff_accepts_perm (perm : ps.Perm qs) :
    (rule.Accepts c ps ↔ rule.Accepts c qs) ↔ ¬OrderDecides c ps qs := by
  constructor
  · intro same decides
    obtain ⟨a, b, differ, rfl, rfl, either⟩ := decides
    rw [accepts_converse_iff, accepts_converse_iff] at same
    rcases either with rfl | rfl
    · exact differ (Formula.imp.inj (same.mp rfl)).1
    · exact differ (Formula.imp.inj (same.mpr rfl)).1.symm
  · intro undecided
    constructor
    · intro accepted
      by_contra refused
      exact undecided (orderDecides_of_accepts perm accepted refused)
    · intro accepted
      by_contra refused
      exact undecided (orderDecides_of_accepts perm.symm accepted refused).symm

end HypotheticalSyllogism

/-- Whatever the order, every rule that allows reordering but the hypothetical syllogism accepts the
same conclusions. -/
theorem RuleId.accepts_of_perm {id : RuleId} (reorderable : id.rule.reorderable = true)
    (other : id ≠ .hypotheticalSyllogism) (wf : ∀ p ∈ ps, p.WellFormed) (perm : ps.Perm qs)
    (h : id.rule.Accepts c ps) : id.rule.Accepts c qs := by
  cases id with
  | conjunction => exact (Conjunction.accepts_iff_of_perm rfl (.refl _) perm).mp h
  | hypotheticalSyllogism => exact absurd rfl other
  | modusPonens =>
    obtain ⟨φ, pair⟩ := ModusPonens.accepts_iff.mp h
    exact ModusPonens.accepts_iff.mpr ⟨φ, pair.perm perm⟩
  | modusTollens =>
    exact ModusTollens.accepts_iff.mpr
      ((exists_inEitherOrder_perm perm).mp (ModusTollens.accepts_iff.mp h))
  | disjunctiveSyllogism =>
    have wf' : ∀ p ∈ qs, p.WellFormed := fun p mem => wf p (perm.mem_iff.mpr mem)
    exact (DisjunctiveSyllogism.accepts_iff wf').mpr
      ((exists_inEitherOrder_perm perm).mp (DisjunctiveSyllogism.resolves_of_accepts h))
  | biconditionalIntroduction =>
    obtain ⟨l, r, rfl, pair⟩ := BiconditionalIntroduction.accepts_iff.mp h
    exact BiconditionalIntroduction.accepts_iff.mpr ⟨l, r, rfl, pair.perm perm⟩
  | biconditionalElimination =>
    exact BiconditionalElimination.accepts_iff.mpr
      ((exists_inEitherOrder_perm perm).mp (BiconditionalElimination.accepts_iff.mp h))
  | _ => cases reorderable

/-! ## The kind of the verdict -/

namespace RuleId

variable {id : RuleId}

/-- Since the shape does not depend on the order, the kind depends on it only where acceptance
does. -/
theorem name_eq_name_iff_accepts (reorderable : id.rule.reorderable = true) (perm : ps.Perm qs)
    {x y : Verdict} (first : Verifier.judge id.rule ⟨c, ps⟩ = .ok x)
    (second : Verifier.judge id.rule ⟨c, qs⟩ = .ok y) :
    x.name = y.name ↔ (id.rule.Accepts c ps ↔ id.rule.Accepts c qs) := by
  obtain ⟨plain, counts⟩ := counts_of_reorderable reorderable
  exact Rule.name_eq_name_iff_accepts first second
    (Rule.shapeDiagnostic?_eq_none_perm plain (counts c ps qs) perm)

/-- Of the reorderable rules, the chain is the only one for which the order may count. -/
theorem accepts_iff_accepts_perm (reorderable : id.rule.reorderable = true)
    (wf : ∀ p ∈ ps, p.WellFormed) (perm : ps.Perm qs) :
    (id.rule.Accepts c ps ↔ id.rule.Accepts c qs) ↔
      ¬(id = .hypotheticalSyllogism ∧ HypotheticalSyllogism.OrderDecides c ps qs) := by
  by_cases chain : id = .hypotheticalSyllogism
  · subst chain
    rw [and_iff_right rfl]
    exact HypotheticalSyllogism.accepts_iff_accepts_perm perm
  · have wf' : ∀ p ∈ qs, p.WellFormed := fun p mem => wf p (perm.mem_iff.mpr mem)
    refine iff_of_true ⟨?_, ?_⟩ fun h => chain h.1
    · exact accepts_of_perm reorderable chain wf perm
    · exact accepts_of_perm reorderable chain wf' perm.symm

end RuleId

/-- From `P → Q` and `Q → P` the verifier accepts `P → P`, and rejects it when the two are swapped:
not every rule that allows reordering gives the same kind of verdict in every order. -/
theorem Verifier.kind_depends_on_order :
    ¬∀ (id : RuleId) (c : Formula) (ps qs : List Premise), id.rule.reorderable = true →
      c.WellFormed → (∀ p ∈ ps, p.WellFormed) → ps.Perm qs → ∀ x y : Verdict,
        (Verifier.verifyStep {} (.known id) c (ps.map .premise)).outcome = .ok ⟨id, x⟩ →
        (Verifier.verifyStep {} (.known id) c (qs.map .premise)).outcome = .ok ⟨id, y⟩ →
        x.name = y.name := by
  intro same
  have kinds := same .hypotheticalSyllogism (.imp (.atom "P") (.atom "P"))
    [.plain (.imp (.atom "P") (.atom "Q")), .plain (.imp (.atom "Q") (.atom "P"))]
    [.plain (.imp (.atom "Q") (.atom "P")), .plain (.imp (.atom "P") (.atom "Q"))]
    rfl (by decide) (by decide) (.swap _ _ _)
    .valid (.violation (.wrongChainStart (.atom "Q") (.atom "P"))) rfl rfl
  exact absurd kinds (by decide)

/-- A rule that allows reordering gives a verdict of the same kind on well-formed premises in any
order, but for the hypothetical syllogism exactly where the order decides: on an implication and its
converse, when they differ and the conclusion is what one of the two orders chains to. -/
theorem Verifier.same_kind_iff_of_perm (v : Verifier) (id : RuleId) (c : Formula)
    (ps qs : List Premise) (reorderable : id.rule.reorderable = true)
    (wf : ∀ p ∈ ps, p.WellFormed) (perm : ps.Perm qs) :
    ∃ x y : Verdict,
      (v.verifyStep (.known id) c (ps.map .premise)).outcome = .ok ⟨id, x⟩ ∧
      (v.verifyStep (.known id) c (qs.map .premise)).outcome = .ok ⟨id, y⟩ ∧
      (x.name = y.name ↔
        ¬(id = .hypotheticalSyllogism ∧ HypotheticalSyllogism.OrderDecides c ps qs)) := by
  have wf' : ∀ p ∈ qs, p.WellFormed := fun p mem => wf p (perm.mem_iff.mpr mem)
  obtain ⟨x, first, -⟩ := id.exists_judge c wf
  obtain ⟨y, second, -⟩ := id.exists_judge c wf'
  refine ⟨x, y, ?_, ?_, ?_⟩
  · rw [verifyStep_eq_verifyBy rfl, verifyBy_outcome_eq_ok_iff]
    exact ⟨rfl, first⟩
  · rw [verifyStep_eq_verifyBy rfl, verifyBy_outcome_eq_ok_iff]
    exact ⟨rfl, second⟩
  · rw [RuleId.name_eq_name_iff_accepts reorderable perm first second]
    exact RuleId.accepts_iff_accepts_perm reorderable wf perm

/-- Swapping `P → Q` and `Q → R` does not change what kind of verdict `P → R` gets. -/
theorem Verifier.same_kind_of_swapped_chain :
    ∃ x y : Verdict,
      (Verifier.verifyStep {} (.known .hypotheticalSyllogism) (.imp (.atom "P") (.atom "R"))
        ([.plain (.imp (.atom "P") (.atom "Q")), .plain (.imp (.atom "Q") (.atom "R"))].map
          .premise)).outcome = .ok ⟨.hypotheticalSyllogism, x⟩ ∧
      (Verifier.verifyStep {} (.known .hypotheticalSyllogism) (.imp (.atom "P") (.atom "R"))
        ([.plain (.imp (.atom "Q") (.atom "R")), .plain (.imp (.atom "P") (.atom "Q"))].map
          .premise)).outcome = .ok ⟨.hypotheticalSyllogism, y⟩ ∧
      x.name = y.name := by
  obtain ⟨x, y, first, second, kind⟩ := same_kind_iff_of_perm {} .hypotheticalSyllogism
    (.imp (.atom "P") (.atom "R"))
    [.plain (.imp (.atom "P") (.atom "Q")), .plain (.imp (.atom "Q") (.atom "R"))]
    [.plain (.imp (.atom "Q") (.atom "R")), .plain (.imp (.atom "P") (.atom "Q"))]
    rfl (by decide) (.swap _ _ _)
  refine ⟨x, y, first, second, kind.mpr ?_⟩
  intro decides
  have differ : Formula.atom "P" ≠ .atom "R" := by decide
  obtain ⟨-, a, b, -, -, -, same | same⟩ := decides
  · exact differ ((Formula.imp.inj same).1.trans (Formula.imp.inj same).2.symm)
  · exact differ ((Formula.imp.inj same).1.trans (Formula.imp.inj same).2.symm)

end NaturalDeduction
