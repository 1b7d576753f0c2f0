import NaturalDeduction.Proofs.Formula.WellFormed
import NaturalDeduction.Proofs.Rule.Advice
import NaturalDeduction.Rule.Structural

/-!
# What double negation and reiteration accept and propose

Both take one plain premise. The one accepts and proposes what the premise negates twice, the other
the premise itself.
-/

namespace NaturalDeduction

variable {c χ : Formula} {ps : List Premise}

namespace DoubleNegation

/-- What a formula negates twice is found exactly when it is a double negation. -/
theorem doublyNegated?_cases (φ : Formula) :
    (∃ ψ, φ = .neg (.neg ψ) ∧ doublyNegated? φ = .ok (some ψ)) ∨
      (∀ ψ, φ ≠ .neg (.neg ψ)) ∧ doublyNegated? φ = .ok none := by
  by_cases outer : φ.connective = .negation
  · obtain ⟨ψ, rfl⟩ := Formula.connective_eq_negation.mp outer
    by_cases inner : ψ.connective = .negation
    · obtain ⟨χ, rfl⟩ := Formula.connective_eq_negation.mp inner
      exact .inl ⟨χ, rfl, rfl⟩
    · refine .inr ⟨?_, ?_⟩
      · intro χ same
        rw [Formula.neg.inj same] at inner
        exact inner rfl
      · have negated : Misuse.need (Formula.neg ψ).operand = .ok ψ := rfl
        rw [doublyNegated?, if_neg (not_not.mpr outer), negated, ok_bind, if_pos inner]
  · refine .inr ⟨?_, ?_⟩
    · rintro χ rfl
      exact outer rfl
    · rw [doublyNegated?, if_pos outer]

/-- The check wants the premise to be the conclusion, doubly negated. -/
theorem diagnose_decides (c φ : Formula) : Decides (diagnose c φ) (φ = .neg (.neg c)) := by
  rcases doublyNegated?_cases φ with ⟨ψ, rfl, found⟩ | ⟨other, found⟩
  · rw [diagnose, found, ok_bind]
    show Decides (.ok (if ψ ≠ c then some (.wrongConclusion ψ c) else none)) _
    refine .congr (.guard trivial fun _ => .accept trivial) ?_
    simp only [ne_eq, not_not, and_true, Formula.neg.injEq]
  · rw [diagnose, found, ok_bind]
    exact .reject trivial (other c)

theorem decidesOne : rule.DecidesOne fun c φ => φ = .neg (.neg c) :=
  ⟨⟨fun _ => rfl, fun _ => rfl⟩, diagnose_decides⟩

/-- The premise negates the conclusion twice. -/
theorem accepts_iff : rule.Accepts c ps ↔ ps = [.plain (.neg (.neg c))] := by
  rw [decidesOne.accepts_iff]
  simp only [exists_eq_right]

theorem answers (shape : rule.shapeDiagnostic? ⟨c, ps⟩ = none) : Answers (rule.check ⟨c, ps⟩) :=
  decidesOne.answers shape

/-- The advisor proposes what is doubly negated. -/
theorem proposes_iff : rule.Proposes ps χ ↔ ps = [.plain (.neg (.neg χ))] := by
  constructor
  · intro h
    obtain ⟨φs, proposed, mem⟩ := h
    obtain ⟨φ, rfl, said⟩ := Advisor.ofOne_eq_some_iff.mp proposed
    rcases doublyNegated?_cases φ with ⟨ψ, rfl, found⟩ | ⟨-, found⟩
    · rw [advise, found, ok_bind] at said
      cases said
      rw [List.mem_singleton.mp mem]
    · rw [advise, found, ok_bind] at said
      cases said
  · rintro rfl
    exact ⟨[χ], rfl, List.mem_cons_self⟩

theorem advises (wf : ∀ p ∈ ps, p.WellFormed) : Advises (Advisor.ofOne advise ps) := by
  refine Advisor.advises_ofOne ?_
  rintro φ rfl
  have wfφ : φ.WellFormed := wf (.plain φ) List.mem_cons_self
  rcases doublyNegated?_cases φ with ⟨ψ, rfl, found⟩ | ⟨-, found⟩
  · rw [advise, found, ok_bind]
    refine .some fun χ mem => ?_
    rw [List.mem_singleton.mp mem]
    exact wfφ.of_neg.of_neg
  · rw [advise, found, ok_bind]
    exact .none

end DoubleNegation

namespace Reiteration

/-- The check wants the premise to be the conclusion. -/
theorem diagnose_decides (c φ : Formula) : Decides (.ok (diagnose c φ)) (φ = c) := by
  refine .congr (.guard trivial fun _ => .accept trivial) ?_
  simp only [ne_eq, not_not, and_true]

theorem decidesOne : rule.DecidesOne fun c φ => φ = c :=
  ⟨⟨fun _ => rfl, fun _ => rfl⟩, diagnose_decides⟩

/-- The premise is the conclusion. -/
theorem accepts_iff : rule.Accepts c ps ↔ ps = [.plain c] := by
  rw [decidesOne.accepts_iff]
  simp only [exists_eq_right]

theorem answers (shape : rule.shapeDiagnostic? ⟨c, ps⟩ = none) : Answers (rule.check ⟨c, ps⟩) :=
  decidesOne.answers shape

/-- The advisor proposes the premise. -/
theorem proposes_iff : rule.Proposes ps χ ↔ ps = [.plain χ] := by
  constructor
  · intro h
    obtain ⟨φs, proposed, mem⟩ := h
    obtain ⟨φ, rfl, said⟩ := Advisor.ofOne_eq_some_iff.mp proposed
    cases said
    rw [List.mem_singleton.mp mem]
  · rintro rfl
    exact ⟨[χ], rfl, List.mem_cons_self⟩

theorem advises (wf : ∀ p ∈ ps, p.WellFormed) :
    Advises (Advisor.ofOne (fun φ => .ok (some [φ])) ps) := by
  refine Advisor.advises_ofOne ?_
  rintro φ rfl
  refine .some fun χ mem => ?_
  rw [List.mem_singleton.mp mem]
  exact wf (.plain φ) List.mem_cons_self

end Reiteration

end NaturalDeduction
