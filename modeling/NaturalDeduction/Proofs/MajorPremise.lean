import NaturalDeduction.Proofs.Formula.Atoms
import NaturalDeduction.Proofs.Suggestions
import NaturalDeduction.Proofs.SwappedPremises

/-!
# Which of two premises is the major one

The rules that try both orders of two premises look for a major premise, which has the form that the
rule is for, and ask whether the other premise matches it. Only then do they look at the conclusion.

Both premises may have that form. Still they match in one order at most: what matches a well-formed
major premise has the atoms of one of its operands, which are fewer than its own. So the premises
alone decide what modus ponens and the elimination of biconditionals conclude, and what modus
tollens concludes up to double negation, and there is nothing to choose between for their advisors.
-/

namespace NaturalDeduction

/-! ## The matching stage of a check -/

/-- The reason is that one premise does not match the other, as the major premise. -/
def Diagnostic.IsMismatch : Diagnostic → Prop
  | notAntecedent _ _ | notNegatedConsequent _ _ | notNegatedDisjunct _ _ | notSide _ _ => True
  | _ => False

namespace Outcome

/-- The check found the major premise first and the other one to match it, whatever it said of the
conclusion then. -/
def Matched : Outcome → Prop
  | valid => True
  | wrongOrder => False
  | rejected why => ¬why.IsMismatch

/-- A check is not at a loss, and gets beyond its matching stage exactly when something is the
case. -/
def MatchesIff (x : Except Misuse Outcome) (P : Prop) : Prop :=
  ∃ outcome, x = .ok outcome ∧ (outcome.Matched ↔ P)

variable {P : Prop} {why : Diagnostic} {rest : Outcome}

/-- Premises in the wrong order do not match. -/
theorem MatchesIff.wrongOrder (h : ¬P) : MatchesIff (.ok .wrongOrder) P :=
  ⟨.wrongOrder, rfl, iff_of_false id h⟩

/-- A mismatch is reported of premises that do not match. -/
theorem MatchesIff.mismatch (mismatch : why.IsMismatch) (h : ¬P) :
    MatchesIff (.ok (.rejected why)) P :=
  ⟨.rejected why, rfl, iff_of_false (not_not.mpr mismatch) h⟩

/-- Premises have matched when the outcome is about the conclusion. -/
theorem MatchesIff.matched {outcome : Outcome} (matched : outcome.Matched) (h : P) :
    MatchesIff (.ok outcome) P :=
  ⟨outcome, rfl, iff_of_true matched h⟩

/-- A check that rejects a mismatch, and goes on with the conclusion otherwise. -/
theorem MatchesIff.guard {differ : Prop} [Decidable differ] (mismatch : why.IsMismatch)
    (matched : rest.Matched) :
    MatchesIff (.ok (if differ then .rejected why else rest)) ¬differ := by
  by_cases h : differ
  · rw [if_pos h]
    exact .mismatch mismatch (not_not.mpr h)
  · rw [if_neg h]
    exact .matched matched h

theorem MatchesIff.congr {x : Except Misuse Outcome} {Q : Prop} (h : MatchesIff x P)
    (same : P ↔ Q) : MatchesIff x Q := by
  obtain ⟨outcome, said, matched⟩ := h
  exact ⟨outcome, said, matched.trans same⟩

/-- What a check says of the conclusion comes after the matching stage. -/
theorem matched_ite {differ : Prop} [Decidable differ] (other : ¬why.IsMismatch) :
    (if differ then rejected why else valid).Matched := by
  by_cases h : differ
  · rw [if_pos h]
    exact other
  · rw [if_neg h]
    trivial

end Outcome

namespace RuleId

/-- The first formula is a major premise for the rule, and the second one matches it. -/
def Matches : RuleId → Formula → Formula → Prop
  | modusPonens, φ, ψ => ∃ b, φ = .imp ψ b
  | modusTollens, φ, ψ => ∃ a b, φ = .imp a b ∧ (Formula.neg b).agrees ψ = true
  | disjunctiveSyllogism, φ, ψ =>
    (∃ φs, φ = .disj φs) ∧ ∃ d ∈ φ.flatten.operands, (Formula.neg d).agrees ψ = true
  | biconditionalElimination, φ, ψ => ∃ l r, φ = .iff l r ∧ (ψ = l ∨ ψ = r)
  | _, _, _ => False

end RuleId

variable {φ ψ χ : Formula} {ps : List Premise}

/-- An implication and its antecedent match. -/
theorem ModusPonens.outcome_matches (c φ ψ : Formula) :
    Outcome.MatchesIff (outcome c φ ψ) (RuleId.modusPonens.Matches φ ψ) := by
  by_cases head : φ.connective = .conditional
  · obtain ⟨a, b, rfl⟩ := Formula.connective_eq_conditional.mp head
    rw [outcome_imp]
    refine .congr (.guard trivial (Outcome.matched_ite id)) ?_
    simp [RuleId.Matches]
  · rw [outcome, if_pos head]
    refine .wrongOrder ?_
    rintro ⟨b, rfl⟩
    exact head rfl

/-- An implication and the negation of its consequent match. -/
theorem ModusTollens.outcome_matches (c φ ψ : Formula) :
    Outcome.MatchesIff (outcome c φ ψ) (RuleId.modusTollens.Matches φ ψ) := by
  by_cases head : φ.connective = .conditional
  · obtain ⟨a, b, rfl⟩ := Formula.connective_eq_conditional.mp head
    rw [outcome_imp]
    refine .congr (.guard trivial (Outcome.matched_ite id)) ?_
    simp [RuleId.Matches]
  · rw [outcome, if_pos head]
    refine .wrongOrder ?_
    rintro ⟨a, b, rfl, -⟩
    exact head rfl

/-- A biconditional and one of its sides match. -/
theorem BiconditionalElimination.outcome_matches (c φ ψ : Formula) :
    Outcome.MatchesIff (outcome c φ ψ) (RuleId.biconditionalElimination.Matches φ ψ) := by
  by_cases head : φ.connective = .biconditional
  · obtain ⟨l, r, rfl⟩ := Formula.connective_eq_biconditional.mp head
    obtain ⟨side, found, spec⟩ := opposite?_yields (.iff l r) ψ
    rw [outcome, if_neg (not_not.mpr head), found, ok_bind]
    cases side with
    | none =>
      refine .mismatch trivial ?_
      rintro ⟨l', r', same, rfl | rfl⟩
      · cases (spec r').mpr (.inl same)
      · cases (spec l').mpr (.inr same)
    | some expected =>
      refine .matched (Outcome.matched_ite id) ?_
      rcases (spec expected).mp rfl with same | same
      · exact ⟨ψ, expected, same, .inl rfl⟩
      · exact ⟨expected, ψ, same, .inr rfl⟩
  · rw [outcome, if_pos head]
    refine .wrongOrder ?_
    rintro ⟨l, r, rfl, -⟩
    exact head rfl

/-- A disjunction and the negation of a flattened disjunct match. -/
theorem DisjunctiveSyllogism.outcome_matches (wf : φ.WellFormed) (c ψ : Formula) :
    Outcome.MatchesIff (outcome c φ ψ) (RuleId.disjunctiveSyllogism.Matches φ ψ) := by
  by_cases head : ∃ φs, φ = .disj φs
  · obtain ⟨φs, rfl⟩ := head
    obtain ⟨found, left⟩ := exists_remainders wf ψ
    have some_iff : found ≠ [] ↔ RuleId.disjunctiveSyllogism.Matches (.disj φs) ψ := by
      constructor
      · intro some
        obtain ⟨χ, mem⟩ := List.exists_mem_of_ne_nil found some
        obtain ⟨front, d, back, split, denied, -⟩ :=
          resolves_disj.mp ((mem_remainders_iff left).mp mem)
        refine ⟨⟨φs, rfl⟩, d, ?_, denied⟩
        rw [split]
        exact List.mem_append_right front List.mem_cons_self
      · rintro ⟨-, d, mem, denied⟩
        obtain ⟨front, back, split⟩ := List.append_of_mem mem
        exact List.ne_nil_of_mem ((mem_remainders_iff left).mpr
          (resolves_disj.mpr ⟨front, d, back, split, denied, rfl⟩))
    rw [outcome_disj, left, ok_bind]
    by_cases reached : found.any (·.agrees c.flatten) = true
    · rw [if_pos reached]
      refine .matched trivial (some_iff.mp ?_)
      rintro rfl
      cases reached
    · rw [if_neg reached]
      cases found with
      | nil => exact .mismatch trivial fun matched => some_iff.mpr matched rfl
      | cons χ rest => exact .matched id (some_iff.mp (List.cons_ne_nil χ rest))
  · rw [outcome_eq_wrongOrder head]
    exact .wrongOrder fun matched => head matched.1

namespace RuleId

variable {id : RuleId}

/-- What the check of a rule finds out about two premises is whether they match. -/
theorem outcome_matches (tries : id.TriesBothOrders) (wf : φ.WellFormed) (c ψ : Formula) :
    Outcome.MatchesIff (id.outcome c φ ψ) (id.Matches φ ψ) := by
  rcases tries.cases with rfl | rfl | rfl | rfl
  · exact ModusPonens.outcome_matches c φ ψ
  · exact ModusTollens.outcome_matches c φ ψ
  · exact DisjunctiveSyllogism.outcome_matches wf c ψ
  · exact BiconditionalElimination.outcome_matches c φ ψ

/-! ## Two premises match in one order at most -/

/-- What matches a major premise has the atoms of an operand of it, and there are others. -/
theorem Matches.length_atoms_lt (matched : id.Matches φ ψ) (wf : φ.WellFormed) :
    ψ.atoms.length < φ.atoms.length := by
  cases id with
  | modusPonens =>
    obtain ⟨b, rfl⟩ := matched
    exact wf.length_atoms_lt_of_mem_operands (Nat.le_refl 2) (List.mem_pair.mpr (.inl rfl))
  | modusTollens =>
    obtain ⟨a, b, rfl, denied⟩ := matched
    rw [← Formula.atoms_eq_of_agrees denied, Formula.atoms]
    exact wf.length_atoms_lt_of_mem_operands (Nat.le_refl 2) (List.mem_pair.mpr (.inr rfl))
  | disjunctiveSyllogism =>
    obtain ⟨⟨φs, rfl⟩, d, mem, denied⟩ := matched
    rw [← Formula.atoms_eq_of_agrees denied, Formula.atoms, ← Formula.atoms_flatten (.disj φs)]
    exact wf.flatten.length_atoms_lt mem
  | biconditionalElimination =>
    obtain ⟨l, r, rfl, side⟩ := matched
    exact wf.length_atoms_lt_of_mem_operands (Nat.le_refl 2) (List.mem_pair.mpr side)
  | _ => exact matched.elim

/-- Two premises match in one order at most, since the major one has more atoms. -/
theorem Matches.asymm (matched : id.Matches φ ψ) (wfφ : φ.WellFormed) (wfψ : ψ.WellFormed) :
    ¬id.Matches ψ φ := by
  intro swapped
  exact Nat.lt_asymm (matched.length_atoms_lt wfφ) (swapped.length_atoms_lt wfψ)

/-- Premises that match in two ways match in the same order. -/
theorem Matches.same_order {φ' ψ' : Formula} (matched : id.Matches φ ψ)
    (matched' : id.Matches φ' ψ') (wf : ∀ p ∈ ps, p.WellFormed) (pair : InEitherOrder ps φ ψ)
    (pair' : InEitherOrder ps φ' ψ') : φ' = φ ∧ ψ' = ψ := by
  rcases pair.eq_or_swap pair' with same | ⟨rfl, rfl⟩
  · exact same
  · obtain ⟨wfφ, wfψ⟩ := pair.wellFormed wf
    exact absurd matched' (matched.asymm wfφ wfψ)

end RuleId

/-! ## What follows from the premises alone -/

/-- Two premises lead to one conclusion by modus ponens. -/
theorem ModusPonens.conclusion_unique {c c' : Formula} (wf : ∀ p ∈ ps, p.WellFormed)
    (accepted : rule.Accepts c ps) (accepted' : rule.Accepts c' ps) : c = c' := by
  obtain ⟨a, pair⟩ := accepts_iff.mp accepted
  obtain ⟨a', pair'⟩ := accepts_iff.mp accepted'
  have matched : RuleId.modusPonens.Matches (.imp a c) a := ⟨c, rfl⟩
  obtain ⟨same, -⟩ := matched.same_order ⟨c', rfl⟩ wf pair pair'
  exact (Formula.imp.inj same).2.symm

theorem ModusTollens.Denies.matches (h : Denies φ ψ χ) : RuleId.modusTollens.Matches φ ψ := by
  obtain ⟨a, b, rfl, denied, -⟩ := h
  exact ⟨a, b, rfl, denied⟩

/-- Up to double negation, two premises lead to one conclusion by modus tollens. -/
theorem ModusTollens.conclusion_unique {c c' : Formula} (wf : ∀ p ∈ ps, p.WellFormed)
    (accepted : rule.Accepts c ps) (accepted' : rule.Accepts c' ps) : c.agrees c' = true := by
  obtain ⟨φ, ψ, pair, χ, denies, agrees⟩ := accepts_iff.mp accepted
  obtain ⟨φ', ψ', pair', χ', denies', agrees'⟩ := accepts_iff.mp accepted'
  obtain ⟨rfl, rfl⟩ := denies.matches.same_order denies'.matches wf pair pair'
  obtain ⟨a, b, rfl, -, rfl⟩ := denies
  obtain ⟨-, rfl⟩ := denies_imp.mp denies'
  rw [Formula.agrees_iff] at agrees agrees' ⊢
  exact agrees.symm.trans agrees'

theorem BiconditionalElimination.Across.matches (h : Across φ ψ χ) :
    RuleId.biconditionalElimination.Matches φ ψ := by
  rcases h with rfl | rfl
  · exact ⟨ψ, χ, rfl, .inl rfl⟩
  · exact ⟨χ, ψ, rfl, .inr rfl⟩

/-- A biconditional has one side across from a given one. -/
theorem BiconditionalElimination.Across.unique {χ' : Formula} (h : Across φ ψ χ)
    (h' : Across φ ψ χ') : χ = χ' := by
  obtain ⟨side, -, spec⟩ := opposite?_yields φ ψ
  exact Option.some.inj (((spec χ).mpr h).symm.trans ((spec χ').mpr h'))

/-- Two premises lead to one conclusion by biconditional elimination. -/
theorem BiconditionalElimination.conclusion_unique {c c' : Formula}
    (wf : ∀ p ∈ ps, p.WellFormed) (accepted : rule.Accepts c ps)
    (accepted' : rule.Accepts c' ps) : c = c' := by
  obtain ⟨φ, ψ, pair, across⟩ := accepts_iff.mp accepted
  obtain ⟨φ', ψ', pair', across'⟩ := accepts_iff.mp accepted'
  obtain ⟨rfl, rfl⟩ := across.matches.same_order across'.matches wf pair pair'
  exact across.unique across'

namespace Advisor

variable {f : Formula → Formula → Except Misuse (Option Formula)}
  {P : Formula → Formula → Formula → Prop}

/-- An advisor that looks at both orders proposes one formula, if it proposes any and the two orders
do not both yield one. -/
theorem eq_singleton_of_inEitherOrder (yields : ∀ φ ψ, Yields (f φ ψ) (P φ ψ)) {φs : List Formula}
    (apart : ∀ φ ψ χ ω, InEitherOrder ps φ ψ → P φ ψ χ → ¬P ψ φ ω)
    (proposed : inEitherOrder f ps = .ok (some φs)) : ∃ χ, φs = [χ] := by
  obtain ⟨φ, ψ, rfl, both⟩ := ofTwo_eq_some_iff.mp proposed
  obtain ⟨a, first, spec⟩ := yields φ ψ
  obtain ⟨b, second, spec'⟩ := yields ψ φ
  have said : bothOrders f φ ψ = .ok (unlessEmpty ([a, b].filterMap id)) := by
    simp only [bothOrders, first, second, ok_bind]
  obtain ⟨found, some⟩ := unlessEmpty_eq_some_iff.mp (Except.ok.inj (said.symm.trans both))
  cases a with
  | none =>
    cases b with
    | none => exact absurd found.symm some
    | some χ => exact ⟨χ, found.symm⟩
  | some χ =>
    cases b with
    | none => exact ⟨χ, found.symm⟩
    | some ω => exact absurd ((spec' ω).mp rfl) (apart φ ψ χ ω (.inl rfl) ((spec χ).mp rfl))

end Advisor

namespace RuleId

variable {id : RuleId}

/-- The rules that draw one conclusion from a major premise and what matches it. -/
def Detaches (id : RuleId) : Prop :=
  id ∈ [modusPonens, modusTollens, biconditionalElimination]

/-- The advisor of such a rule looks at both orders, and one that does not match yields nothing. -/
theorem Detaches.exists_yields (detaches : id.Detaches) :
    ∃ f, ∃ P : Formula → Formula → Formula → Prop, id.rule.propose = Advisor.inEitherOrder f ∧
      (∀ φ ψ, Advisor.Yields (f φ ψ) (P φ ψ)) ∧ ∀ φ ψ χ, P φ ψ χ → id.Matches φ ψ := by
  simp only [Detaches, List.mem_cons, List.not_mem_nil, or_false] at detaches
  rcases detaches with rfl | rfl | rfl
  · exact ⟨_, _, rfl, ModusPonens.detach?_yields, fun φ ψ χ same => ⟨χ, same⟩⟩
  · exact ⟨_, _, rfl, ModusTollens.deny?_yields, fun φ ψ χ denies => denies.matches⟩
  · exact ⟨_, _, rfl, BiconditionalElimination.opposite?_yields,
      fun φ ψ χ across => across.matches⟩

/-- A rule that detaches proposes one formula, if it proposes any. -/
theorem Detaches.eq_singleton (detaches : id.Detaches) (wf : ∀ p ∈ ps, p.WellFormed)
    {φs : List Formula} (proposed : id.rule.propose ps = .ok (some φs)) : ∃ χ, φs = [χ] := by
  obtain ⟨f, P, advises, yields, matched⟩ := detaches.exists_yields
  rw [advises] at proposed
  refine Advisor.eq_singleton_of_inEitherOrder yields ?_ proposed
  intro φ ψ χ ω pair first second
  obtain ⟨wfφ, wfψ⟩ := pair.wellFormed wf
  exact (matched φ ψ χ first).asymm wfφ wfψ (matched ψ φ ω second)

end RuleId

namespace Verifier

/-- For a rule that tries both orders, two well-formed plain premises pass the matching stage of its
check in one order at most. So all that modus ponens, or the elimination of biconditionals, accepts
from the same premises is one formula, all that modus tollens accepts from them agrees up to double
negation, and each of the three proposes one text at most, however many may be handed out. -/
theorem matches_in_one_order (v : Verifier) (ps : List Premise) (wf : ∀ p ∈ ps, p.WellFormed) :
    (∀ (id : RuleId) (φ ψ : Formula), id.TriesBothOrders → InEitherOrder ps φ ψ →
      (∃ shape, id.rule.TriesBothOrders id.outcome shape) ∧
      (∀ c, ∃ outcome, id.outcome c φ ψ = .ok outcome ∧ (outcome.Matched ↔ id.Matches φ ψ)) ∧
      ¬(id.Matches φ ψ ∧ id.Matches ψ φ)) ∧
    (∀ c c', v.Accepts .modusPonens c ps → v.Accepts .modusPonens c' ps → c = c') ∧
    (∀ c c', v.Accepts .biconditionalElimination c ps →
      v.Accepts .biconditionalElimination c' ps → c = c') ∧
    (∀ c c', v.Accepts .modusTollens c ps → v.Accepts .modusTollens c' ps →
      c.agrees c' = true) ∧
    ∀ id : RuleId, id.Detaches → ∃ proposal, id.rule.propose ps = .ok proposal ∧
      ∀ φs, proposal = some φs →
        ∀ left n, (Suggestions.take n { pending := φs, left }).1.length ≤ 1 := by
  simp only [accepts_iff]
  refine ⟨fun id φ ψ tries pair => ?_, fun c c' => ModusPonens.conclusion_unique wf,
    fun c c' => BiconditionalElimination.conclusion_unique wf,
    fun c c' => ModusTollens.conclusion_unique wf, fun id detaches => ?_⟩
  · obtain ⟨wfφ, wfψ⟩ := pair.wellFormed wf
    exact ⟨tries.exists_shape, fun c => RuleId.outcome_matches tries wfφ c ψ,
      fun both => both.1.asymm wfφ wfψ both.2⟩
  · obtain ⟨proposal, proposed, -⟩ := id.advises wf
    refine ⟨proposal, proposed, fun φs same left n => ?_⟩
    subst same
    obtain ⟨χ, rfl⟩ := detaches.eq_singleton wf proposed
    exact Suggestions.length_take_le_pending n _

/-- By modus tollens, `P → ¬(Q → R)` and `Q → R` match in the order given, and not when swapped,
though both are implications. The conclusions `¬P` and `¬¬¬P`, both accepted, agree, and only `¬P`
is proposed. -/
theorem matches_in_one_order_of_implications :
    RuleId.modusTollens.Matches (.imp (.atom "P") (.neg (.imp (.atom "Q") (.atom "R"))))
        (.imp (.atom "Q") (.atom "R")) ∧
      ¬RuleId.modusTollens.Matches (.imp (.atom "Q") (.atom "R"))
        (.imp (.atom "P") (.neg (.imp (.atom "Q") (.atom "R")))) ∧
      (Formula.neg (.atom "P")).agrees (.neg (.neg (.neg (.atom "P")))) = true ∧
      ∃ φs, RuleId.modusTollens.rule.propose
          [.plain (.imp (.atom "P") (.neg (.imp (.atom "Q") (.atom "R")))),
            .plain (.imp (.atom "Q") (.atom "R"))] = .ok (some φs) ∧
        (Suggestions.take 32 { pending := φs, left := 32 }).1.length ≤ 1 := by
  obtain ⟨once, -, -, agree, propose⟩ := matches_in_one_order {}
    [.plain (.imp (.atom "P") (.neg (.imp (.atom "Q") (.atom "R")))),
      .plain (.imp (.atom "Q") (.atom "R"))] (by decide)
  have tries : RuleId.modusTollens.TriesBothOrders := List.mem_cons_of_mem _ List.mem_cons_self
  have detaches : RuleId.modusTollens.Detaches := List.mem_cons_of_mem _ List.mem_cons_self
  have matched : RuleId.modusTollens.Matches
      (.imp (.atom "P") (.neg (.imp (.atom "Q") (.atom "R")))) (.imp (.atom "Q") (.atom "R")) :=
    ⟨_, _, rfl, rfl⟩
  obtain ⟨-, -, apart⟩ := once _ _ _ tries (.inl rfl)
  obtain ⟨proposal, proposed, few⟩ := propose _ detaches
  refine ⟨matched, fun swapped => apart ⟨matched, swapped⟩, agree _ _ rfl rfl, ?_⟩
  cases proposed
  exact ⟨_, rfl, few _ rfl 32 32⟩

end Verifier

end NaturalDeduction
