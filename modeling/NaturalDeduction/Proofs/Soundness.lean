import NaturalDeduction.Proofs.Formula.Meaning
import NaturalDeduction.Proofs.Rule.Biconditional
import NaturalDeduction.Proofs.Rule.Conditional
import NaturalDeduction.Proofs.Rule.Conjunction
import NaturalDeduction.Proofs.Rule.Disjunction
import NaturalDeduction.Proofs.Rule.Structural
import NaturalDeduction.Proofs.Verifier

/-!
# Soundness

A rule accepts consequences only: the conclusion is true under every valuation under which the
premises say what is the case. There is one argument for each rule, from the steps that the rule
accepts; flattening and reduction enter through the lemmas that they keep the meaning.
-/

namespace NaturalDeduction

open Formula

/-- Whatever the atoms mean, the conclusion is true if what the premises say is the case. -/
def Entails (ps : List Premise) (c : Formula) : Prop :=
  ∀ v : Valuation, (∀ p ∈ ps, p.Holds v) → c.eval v = true

variable {c : Formula} {ps : List Premise} {v : Valuation}

/-- Of premises that hold, both formulas hold. -/
theorem InEitherOrder.holds {φ ψ : Formula} (pair : InEitherOrder ps φ ψ)
    (h : ∀ p ∈ ps, p.Holds v) : φ.eval v = true ∧ ψ.eval v = true := by
  rcases pair with rfl | rfl
  · exact ⟨h (.plain φ) (by simp), h (.plain ψ) (by simp)⟩
  · exact ⟨h (.plain φ) (by simp), h (.plain ψ) (by simp)⟩

theorem holds_single {p : Premise} (h : ∀ q ∈ [p], q.Holds v) : p.Holds v :=
  h p List.mem_cons_self

namespace Conjunction

/-- What is concluded from its conjuncts follows. -/
theorem entails (h : rule.Accepts c ps) : Entails ps c := by
  intro v holds
  obtain ⟨φs, ψs, rfl, rfl, -, mem⟩ := accepts_iff.mp h
  rw [eval_conj_eq_true]
  intro φ inside
  exact holds (.plain φ) (List.mem_map_of_mem ((mem φ).mpr inside))

end Conjunction

namespace Simplification

/-- What agrees with a conjunct of a true conjunction is true. -/
theorem eval_of_isConjunct {φs : List Formula} {χ : Formula} (whole : eval v (.conj φs) = true)
    (h : isConjunct (Formula.conj φs).flatten.operands χ = true) : χ.eval v = true := by
  obtain ⟨φ, mem, agrees⟩ := isConjunct_iff.mp h
  rw [← eval_eq_of_agrees agrees]
  exact eval_conj_eq_true_iff_flatten.mp whole φ mem

/-- A part of a conjunction follows from it. -/
theorem entails (h : rule.Accepts c ps) : Entails ps c := by
  intro v holds
  obtain ⟨φs, rfl, part⟩ := accepts_iff.mp h
  have whole : eval v (.conj φs) = true := holds_single holds
  rcases part with same | conjunct | ⟨χs, rfl, each⟩
  · rw [eval_eq_of_agrees same]
    exact whole
  · exact eval_of_isConjunct whole conjunct
  · rw [eval_conj_eq_true_iff_flatten]
    intro χ mem
    exact eval_of_isConjunct whole (each χ mem)

end Simplification

namespace HypotheticalSyllogism

/-- The chain of two implications that hold holds. -/
theorem Chains.eval {φ ψ χ : Formula} (chains : Chains φ ψ χ) (hφ : φ.eval v = true)
    (hψ : ψ.eval v = true) : χ.eval v = true := by
  obtain ⟨a, b, d, rfl, rfl, rfl⟩ := chains
  rw [eval_imp_eq_true] at hφ hψ ⊢
  intro ha
  exact hψ (hφ ha)

theorem entails (h : rule.Accepts c ps) : Entails ps c := by
  intro v holds
  obtain ⟨φ, ψ, pair, licenses⟩ := accepts_iff.mp h
  obtain ⟨hφ, hψ⟩ := InEitherOrder.holds (.inl pair) holds
  rcases licenses with chains | ⟨-, chains⟩
  · exact chains.eval hφ hψ
  · exact chains.eval hψ hφ

end HypotheticalSyllogism

namespace ModusPonens

theorem entails (h : rule.Accepts c ps) : Entails ps c := by
  intro v holds
  obtain ⟨φ, pair⟩ := accepts_iff.mp h
  obtain ⟨implication, antecedent⟩ := pair.holds holds
  exact eval_imp_eq_true.mp implication antecedent

end ModusPonens

namespace ModusTollens

theorem entails (h : rule.Accepts c ps) : Entails ps c := by
  intro v holds
  obtain ⟨φ, ψ, pair, χ, ⟨a, b, rfl, denied, rfl⟩, agrees⟩ := accepts_iff.mp h
  obtain ⟨implication, other⟩ := pair.holds holds
  have hb : b.eval v = false := by
    rw [← eval_eq_of_agrees denied, eval_neg, Bool.not_eq_true'] at other
    exact other
  have ha : a.eval v = false := by
    rw [Bool.eq_false_iff]
    intro ha
    rw [eval_imp_eq_true.mp implication ha] at hb
    cases hb
  rw [← eval_eq_of_agrees agrees, eval_neg, ha]
  rfl

end ModusTollens

namespace Addition

theorem entails (h : rule.Accepts c ps) : Entails ps c := by
  intro v holds
  obtain ⟨φ, φs, rfl, rfl, mem | mem⟩ := accepts_iff.mp h
  · rw [eval_disj_eq_true]
    exact ⟨φ, mem, holds_single holds⟩
  · rw [eval_disj_eq_true_iff_flatten]
    exact ⟨φ, mem, holds_single holds⟩

end Addition

namespace DisjunctiveSyllogism

/-- What several formulas amount to holds when one of them does. -/
theorem eval_joint {φs : List Formula} :
    (joint φs).eval v = true ↔ ∃ φ ∈ φs, φ.eval v = true := by
  rcases φs with _ | ⟨φ, _ | ⟨ψ, rest⟩⟩
  · exact eval_disj_eq_true
  · rw [joint, List.exists_mem_cons_iff]
    simp only [List.not_mem_nil, false_and, exists_false, or_false]
  · exact eval_disj_eq_true

/-- A true disjunction one disjunct of which is denied has a true one among the others. -/
theorem Resolves.eval {φ ψ χ : Formula} (resolved : Resolves φ ψ χ) (hφ : φ.eval v = true)
    (hψ : ψ.eval v = true) : χ.eval v = true := by
  obtain ⟨φs, front, d, back, rfl, split, denied, rfl⟩ := resolved
  have hd : ¬d.eval v = true := by
    rw [← eval_eq_of_agrees denied, eval_neg, Bool.not_eq_true'] at hψ
    rw [hψ]
    exact Bool.false_ne_true
  obtain ⟨e, mem, he⟩ := eval_disj_eq_true_iff_flatten.mp hφ
  rw [split, List.mem_append, List.mem_cons] at mem
  rw [eval_joint]
  refine ⟨e, List.mem_append.mpr ?_, he⟩
  rcases mem with before | rfl | after
  · exact .inl before
  · exact absurd he hd
  · exact .inr after

theorem entails (h : rule.Accepts c ps) : Entails ps c := by
  intro v holds
  obtain ⟨φ, ψ, pair, χ, resolved, agrees⟩ := resolves_of_accepts h
  obtain ⟨hφ, hψ⟩ := pair.holds holds
  rw [← eval_flatten, ← eval_eq_of_agrees agrees]
  exact resolved.eval hφ hψ

end DisjunctiveSyllogism

namespace DoubleNegation

theorem entails (h : rule.Accepts c ps) : Entails ps c := by
  intro v holds
  rw [accepts_iff] at h
  subst h
  have premise := holds_single holds
  simpa only [Premise.holds_plain, eval_neg, Bool.not_not] using premise

end DoubleNegation

namespace Reiteration

theorem entails (h : rule.Accepts c ps) : Entails ps c := by
  intro v holds
  rw [accepts_iff] at h
  subst h
  exact holds_single holds

end Reiteration

namespace ConditionalProof

theorem entails (h : rule.Accepts c ps) : Entails ps c := by
  intro v holds
  obtain ⟨a, b, rfl, rfl⟩ := accepts_iff.mp h
  have shown := holds_single holds
  rw [Premise.holds_subproof, List.forall_mem_singleton] at shown
  exact eval_imp_eq_true.mpr shown

end ConditionalProof

namespace BiconditionalIntroduction

theorem entails (h : rule.Accepts c ps) : Entails ps c := by
  intro v holds
  obtain ⟨l, r, rfl, pair⟩ := accepts_iff.mp h
  obtain ⟨forward, backward⟩ := pair.holds holds
  rw [eval_imp_eq_true] at forward backward
  rw [eval_iff_eq_true, Bool.eq_iff_iff]
  exact ⟨forward, backward⟩

end BiconditionalIntroduction

namespace BiconditionalElimination

theorem entails (h : rule.Accepts c ps) : Entails ps c := by
  intro v holds
  obtain ⟨φ, ψ, pair, rfl | rfl⟩ := accepts_iff.mp h
  · obtain ⟨same, side⟩ := pair.holds holds
    rw [← eval_iff_eq_true.mp same]
    exact side
  · obtain ⟨same, side⟩ := pair.holds holds
    rw [eval_iff_eq_true.mp same]
    exact side

end BiconditionalElimination

namespace CaseAnalysis

theorem entails (h : rule.Accepts c ps) : Entails ps c := by
  intro v holds
  obtain ⟨φs, ds, rfl, -, mem⟩ := accepts_iff.mp h
  rw [List.forall_mem_cons] at holds
  obtain ⟨disjunction, cases⟩ := holds
  obtain ⟨d, disjunct, hd⟩ := eval_disj_eq_true_iff_flatten.mp disjunction
  -- The case of a true disjunct is among the premises, and shows the conclusion.
  have shown : (caseOf c d).Holds v := cases _ (List.mem_map_of_mem ((mem d).mpr disjunct))
  rw [caseOf, Premise.holds_subproof, List.forall_mem_singleton] at shown
  exact shown hd

end CaseAnalysis

/-- Every rule of the catalogue is sound. -/
theorem RuleId.entails_of_accepts {id : RuleId} (h : id.rule.Accepts c ps) : Entails ps c := by
  cases id with
  | conjunction => exact Conjunction.entails h
  | simplification => exact Simplification.entails h
  | hypotheticalSyllogism => exact HypotheticalSyllogism.entails h
  | modusPonens => exact ModusPonens.entails h
  | modusTollens => exact ModusTollens.entails h
  | addition => exact Addition.entails h
  | disjunctiveSyllogism => exact DisjunctiveSyllogism.entails h
  | doubleNegation => exact DoubleNegation.entails h
  | reiteration => exact Reiteration.entails h
  | conditionalProof => exact ConditionalProof.entails h
  | biconditionalIntroduction => exact BiconditionalIntroduction.entails h
  | biconditionalElimination => exact BiconditionalElimination.entails h
  | disjunctionElimination => exact CaseAnalysis.entails h

/-- What the verifier calls valid is true under every valuation under which the premises say what is
the case, whichever way the rule was named. -/
theorem Verifier.verifyStep_sound (v : Verifier) (r : RuleRef) (c : Formula) (ps : List Premise)
    (result : Result) (answered : (v.verifyStep r c (ps.map .premise)).outcome = .ok result)
    (valid : result.verdict = .valid) (w : Valuation) (holds : ∀ p ∈ ps, p.Holds w) :
    c.eval w = true := by
  obtain ⟨-, judged⟩ := exists_judge_of_verifyStep answered
  rw [valid] at judged
  exact RuleId.entails_of_accepts judged w holds

/-- From `P ∨ (¬Q ∨ R)` and `Q` the verifier accepts `P ∨ R`, which is true where `Q` and `R`
are. -/
theorem Verifier.verifyStep_sound_of_remainder :
    Accepts {} .disjunctiveSyllogism (.disj [.atom "P", .atom "R"])
      [.plain (.disj [.atom "P", .disj [.neg (.atom "Q"), .atom "R"]]), .plain (.atom "Q")] ∧
    eval (· ≠ "P") (.disj [.atom "P", .atom "R"]) = true := by
  have accepted : Accepts {} .disjunctiveSyllogism (.disj [.atom "P", .atom "R"])
      [.plain (.disj [.atom "P", .disj [.neg (.atom "Q"), .atom "R"]]), .plain (.atom "Q")] := rfl
  refine ⟨accepted, verifyStep_sound {} _ _ _ _ accepted rfl _ ?_⟩
  simp [eval, evalEach, Junction.combine]

end NaturalDeduction
