import NaturalDeduction.Proofs.Formula.WellFormed
import NaturalDeduction.Proofs.Rule.EitherOrder
import NaturalDeduction.Rule.Conditional

/-!
# What the rules for conditionals accept and propose

For each rule: the steps that it accepts, the formulas that it proposes, and that neither its check
nor its advisor is at a loss.
-/

namespace NaturalDeduction

open Formula (connective_eq_conditional)
open Advisor (advises_ofTwo advises_bothOrders)

variable {c φ ψ χ : Formula} {ps : List Premise}

namespace HypotheticalSyllogism

/-- Two implications chain in the order given, and amount to the third formula. -/
def Chains (φ ψ χ : Formula) : Prop := ∃ a b d, φ = .imp a b ∧ ψ = .imp b d ∧ χ = .imp a d

/-- Two implications chain where the first ends and the second begins with the same formula. -/
theorem chains_imp {a b d e : Formula} :
    Chains (.imp a b) (.imp d e) χ ↔ b = d ∧ χ = .imp a e := by
  constructor
  · intro h
    obtain ⟨_, _, _, first, second, rfl⟩ := h
    cases first
    cases second
    exact ⟨rfl, rfl⟩
  · intro h
    obtain ⟨rfl, rfl⟩ := h
    exact ⟨a, b, e, rfl, rfl, rfl⟩

/-- Only implications chain, and they chain to an implication. -/
theorem Chains.isConditional (chains : Chains φ ψ χ) :
    φ.connective = .conditional ∧ ψ.connective = .conditional ∧ χ.connective = .conditional := by
  obtain ⟨a, b, d, rfl, rfl, rfl⟩ := chains
  exact ⟨rfl, rfl, rfl⟩

/-- What the check demands: the order given chains to the conclusion or, if that order does not
chain at all, the other order does. -/
def Licenses (φ ψ χ : Formula) : Prop :=
  Chains φ ψ χ ∨ (¬∃ ω, Chains φ ψ ω) ∧ Chains ψ φ χ

theorem Licenses.isConditional (licenses : Licenses φ ψ χ) :
    φ.connective = .conditional ∧ ψ.connective = .conditional ∧ χ.connective = .conditional := by
  rcases licenses with chains | ⟨-, chains⟩
  · exact chains.isConditional
  · have heads := chains.isConditional
    exact ⟨heads.2.1, heads.1, heads.2.2⟩

/-- For implications, the order given chains when the consequent of the first is the antecedent of
the second. -/
theorem licenses_imp {a b d e : Formula} :
    Licenses (.imp a b) (.imp d e) χ ↔
      b = d ∧ χ = .imp a e ∨ b ≠ d ∧ e = a ∧ χ = .imp d b := by
  have unchained : (¬∃ ω, Chains (.imp a b) (.imp d e) ω) ↔ b ≠ d := by
    simp only [chains_imp, exists_and_left, exists_eq, and_true, ne_eq]
  rw [Licenses, chains_imp, chains_imp, unchained]

theorem diagnose_imp (s f a b d e : Formula) :
    diagnose (.imp s f) (.imp a b) (.imp d e) =
      let (a, b, d, e) := if b ≠ d ∧ e = a then (d, e, a, b) else (a, b, d, e)
      .ok (
        if b ≠ d then some (.unchained (.imp a b) (.imp d e))
        else if s ≠ a then some (.wrongChainStart a s)
        else if f ≠ e then some (.wrongChainEnd e f)
        else none) := rfl

/-- Once the chain is put in order, the conclusion must lead from its start to its end. -/
theorem decides_chain (s f a b d e : Formula) :
    Decides (.ok (
        if b ≠ d then some (.unchained (.imp a b) (.imp d e))
        else if s ≠ a then some (.wrongChainStart a s)
        else if f ≠ e then some (.wrongChainEnd e f)
        else none))
      (b = d ∧ Formula.imp s f = .imp a e) := by
  refine .congr (.guard trivial fun _ => .guard trivial fun _ => .guard trivial fun _ =>
    .accept trivial) ?_
  simp only [ne_eq, not_not, and_true, Formula.imp.injEq]

/-- The check wants the conclusion to be the chain that it tries, and tries one order only. -/
theorem diagnose_decides (c φ ψ : Formula) : Decides (diagnose c φ ψ) (Licenses φ ψ c) := by
  by_cases heads : φ.connective ≠ .conditional ∨ ψ.connective ≠ .conditional
  · rw [diagnose, if_pos heads]
    refine .reject trivial fun licenses => ?_
    exact heads.elim (· licenses.isConditional.1) (· licenses.isConditional.2.1)
  · obtain ⟨hφ, hψ⟩ := not_or.mp heads
    obtain ⟨a, b, rfl⟩ := connective_eq_conditional.mp (not_not.mp hφ)
    obtain ⟨d, e, rfl⟩ := connective_eq_conditional.mp (not_not.mp hψ)
    by_cases head : c.connective = .conditional
    · obtain ⟨s, f, rfl⟩ := connective_eq_conditional.mp head
      rw [diagnose_imp, licenses_imp]
      by_cases swap : b ≠ d ∧ e = a
      · -- Only the other order chains, and the check goes on with that.
        rw [if_pos swap]
        have swapped : b = d ∧ Formula.imp s f = .imp a e ∨
            b ≠ d ∧ e = a ∧ Formula.imp s f = .imp d b ↔ e = a ∧ Formula.imp s f = .imp d b :=
          ⟨fun h => h.elim (fun h => absurd h.1 swap.1) And.right, fun h => .inr ⟨swap.1, h⟩⟩
        rw [swapped]
        exact decides_chain s f d e a b
      · rw [if_neg swap]
        have given : b = d ∧ Formula.imp s f = .imp a e ∨
            b ≠ d ∧ e = a ∧ Formula.imp s f = .imp d b ↔ b = d ∧ Formula.imp s f = .imp a e :=
          ⟨fun h => h.elim id fun h => absurd ⟨h.1, h.2.1⟩ swap, .inl⟩
        rw [given]
        exact decides_chain s f a b d e
    · rw [diagnose, if_neg heads, if_pos head]
      exact .reject trivial fun licenses => head licenses.isConditional.2.2

theorem takesPlain : rule.TakesPlain 2 := ⟨fun _ => rfl, fun _ => rfl⟩

/-- The premises are two implications that chain to the conclusion, in the order given or else in
the other. -/
theorem accepts_iff :
    rule.Accepts c ps ↔ ∃ φ ψ, ps = [.plain φ, .plain ψ] ∧ Licenses φ ψ c := by
  rw [takesPlain.accepts_iff_two]
  simp only [rule, Check.ofTwo, Premise.formula, (diagnose_decides c _ _).accepts]

/-- From an implication and its converse, the order given chains to the antecedent of the first. -/
theorem accepts_converse_iff {a b : Formula} :
    rule.Accepts c [.plain (.imp a b), .plain (.imp b a)] ↔ c = .imp a a := by
  rw [accepts_iff]
  constructor
  · intro h
    obtain ⟨φ, ψ, same, licenses⟩ := h
    cases same
    rcases licenses_imp.mp licenses with ⟨-, reached⟩ | ⟨unchained, -⟩
    · exact reached
    · exact absurd rfl unchained
  · intro reached
    exact ⟨_, _, rfl, licenses_imp.mpr (.inl ⟨rfl, reached⟩)⟩

theorem answers (shape : rule.shapeDiagnostic? ⟨c, ps⟩ = none) : Answers (rule.check ⟨c, ps⟩) :=
  takesPlain.answers_two (fun φ ψ _ => (diagnose_decides c φ ψ).answers) shape

/-- The advisor finds the chain of two implications in the order given. -/
theorem chain?_yields (a b d e : Formula) :
    Advisor.Yields (chain? (.imp a b) (.imp d e)) (Chains (.imp a b) (.imp d e)) := by
  have chain : chain? (.imp a b) (.imp d e) = .ok (if b = d then some (.imp a e) else none) := rfl
  rw [chain]
  by_cases chained : b = d
  · rw [if_pos chained]
    exact .some fun χ => by simp only [chains_imp, chained, true_and]
  · rw [if_neg chained]
    exact .none fun χ chains => chained (chains_imp.mp chains).1

/-- Of two implications the advisor proposes the chains of both orders. -/
theorem proposes_imp_iff {a b d e : Formula} :
    rule.Proposes [.plain (.imp a b), .plain (.imp d e)] χ ↔
      Chains (.imp a b) (.imp d e) χ ∨ Chains (.imp d e) (.imp a b) χ := by
  obtain ⟨proposal, same, spec⟩ :=
    Advisor.bothOrders_spec (chain?_yields a b d e) (chain?_yields d e a b)
  rw [← spec]
  show (∃ φs, Advisor.bothOrders chain? (.imp a b) (.imp d e) = .ok (some φs) ∧ χ ∈ φs) ↔ _
  simp only [same, Except.ok.injEq]

/-- The advisor proposes what two implications chain to, in either order. -/
theorem proposes_iff : rule.Proposes ps χ ↔ ∃ φ ψ, InEitherOrder ps φ ψ ∧ Chains φ ψ χ := by
  constructor
  · intro h
    obtain ⟨φs, proposed, mem⟩ := h
    obtain ⟨φ, ψ, rfl, said⟩ := Advisor.ofTwo_eq_some_iff.mp proposed
    by_cases heads : φ.connective ≠ .conditional ∨ ψ.connective ≠ .conditional
    · rw [if_pos heads] at said
      cases said
    · obtain ⟨hφ, hψ⟩ := not_or.mp heads
      obtain ⟨a, b, rfl⟩ := connective_eq_conditional.mp (not_not.mp hφ)
      obtain ⟨d, e, rfl⟩ := connective_eq_conditional.mp (not_not.mp hψ)
      rcases proposes_imp_iff.mp ⟨φs, proposed, mem⟩ with chains | chains
      · exact ⟨_, _, .inl rfl, chains⟩
      · exact ⟨_, _, .inr rfl, chains⟩
  · intro h
    obtain ⟨φ, ψ, pair, chains⟩ := h
    obtain ⟨a, b, d, rfl, rfl, rfl⟩ := chains
    have forward : Chains (.imp a b) (.imp b d) (.imp a d) := ⟨a, b, d, rfl, rfl, rfl⟩
    rcases pair with rfl | rfl
    · exact proposes_imp_iff.mpr (.inl forward)
    · exact proposes_imp_iff.mpr (.inr forward)

/-- A chain is made of parts of the premises, and is well formed if they are. -/
theorem Chains.wellFormed (chains : Chains φ ψ χ) (wfφ : φ.WellFormed) (wfψ : ψ.WellFormed) :
    χ.WellFormed := by
  obtain ⟨a, b, d, rfl, rfl, rfl⟩ := chains
  exact .imp wfφ.of_imp.1 wfψ.of_imp.2

theorem advises (wf : ∀ p ∈ ps, p.WellFormed) : Advises (advise ps) := by
  refine advises_ofTwo fun φ ψ pair => ?_
  obtain ⟨wfφ, wfψ⟩ := InEitherOrder.wellFormed (.inl pair) wf
  by_cases heads : φ.connective ≠ .conditional ∨ ψ.connective ≠ .conditional
  · rw [if_pos heads]
    exact .none
  · rw [if_neg heads]
    obtain ⟨hφ, hψ⟩ := not_or.mp heads
    obtain ⟨a, b, rfl⟩ := connective_eq_conditional.mp (not_not.mp hφ)
    obtain ⟨d, e, rfl⟩ := connective_eq_conditional.mp (not_not.mp hψ)
    refine advises_bothOrders (chain?_yields a b d e) (chain?_yields d e a b) ?_
    intro χ h
    rcases h with chains | chains
    · exact chains.wellFormed wfφ wfψ
    · exact chains.wellFormed wfψ wfφ

end HypotheticalSyllogism

namespace ModusPonens

theorem outcome_imp (a b ψ : Formula) :
    outcome c (.imp a b) ψ = .ok (
      if a ≠ ψ then .rejected (.notAntecedent ψ (.imp a b))
      else if b ≠ c then .rejected (.notConsequent c (.imp a b))
      else .valid) := rfl

/-- In one order, the check wants an implication from the other premise to the conclusion. -/
theorem outcome_decides (c φ ψ : Formula) :
    Outcome.Decides (outcome c φ ψ) (φ = .imp ψ c) := by
  by_cases head : φ.connective = .conditional
  · obtain ⟨a, b, rfl⟩ := connective_eq_conditional.mp head
    rw [outcome_imp]
    refine .congr (.guard trivial fun _ => .guard trivial fun _ => .valid trivial) ?_
    simp only [ne_eq, not_not, and_true, Formula.imp.injEq]
  · rw [outcome, if_pos head]
    exact .wrongOrder fun same => head (same ▸ rfl)

theorem detach?_imp (a b ψ : Formula) :
    detach? (.imp a b) ψ = .ok (if a = ψ then some b else none) := rfl

/-- The advisor finds the consequent where the antecedent is the other premise. -/
theorem detach?_yields (φ ψ : Formula) : Advisor.Yields (detach? φ ψ) (φ = .imp ψ ·) := by
  by_cases head : φ.connective = .conditional
  · obtain ⟨a, b, rfl⟩ := connective_eq_conditional.mp head
    rw [detach?_imp]
    by_cases matched : a = ψ
    · rw [if_pos matched]
      exact .some fun χ => by rw [Formula.imp.injEq, eq_comm (a := χ)]; simp only [matched, true_and]
    · rw [if_neg matched]
      exact .none fun χ same => matched (Formula.imp.inj same).1
  · rw [detach?, if_pos head]
    exact .none fun χ same => head (same ▸ rfl)

theorem triesBothOrders : rule.TriesBothOrders outcome .implication :=
  ⟨⟨fun _ => rfl, fun _ => rfl⟩, rfl⟩

/-- The premises are an implication of the conclusion, and its antecedent. -/
theorem accepts_iff : rule.Accepts c ps ↔ ∃ φ, InEitherOrder ps (.imp φ c) φ := by
  refine (triesBothOrders.accepts_iff (outcome_decides c)).trans ?_
  constructor
  · intro h
    obtain ⟨_, φ, pair, rfl⟩ := h
    exact ⟨φ, pair⟩
  · intro h
    obtain ⟨φ, pair⟩ := h
    exact ⟨_, φ, pair, rfl⟩

/-- The advisor proposes the consequent of an implication whose antecedent is given too. -/
theorem proposes_iff : rule.Proposes ps χ ↔ ∃ φ, InEitherOrder ps (.imp φ χ) φ := by
  refine (Advisor.exists_inEitherOrder_iff detach?_yields).trans ?_
  constructor
  · intro h
    obtain ⟨_, φ, pair, rfl⟩ := h
    exact ⟨φ, pair⟩
  · intro h
    obtain ⟨φ, pair⟩ := h
    exact ⟨_, φ, pair, rfl⟩

theorem answers (shape : rule.shapeDiagnostic? ⟨c, ps⟩ = none) : Answers (rule.check ⟨c, ps⟩) :=
  triesBothOrders.answers (fun φ ψ _ => (outcome_decides c φ ψ).answers) shape

theorem advises (wf : ∀ p ∈ ps, p.WellFormed) : Advises (Advisor.inEitherOrder detach? ps) := by
  refine Advisor.advises_inEitherOrder detach?_yields ?_ wf
  rintro φ ψ χ rfl wf -
  exact wf.of_imp.2

end ModusPonens

namespace ModusTollens

/-- An implication and what denies its consequent deny its antecedent. -/
def Denies (implication other χ : Formula) : Prop :=
  ∃ a b, implication = .imp a b ∧ (Formula.neg b).agrees other = true ∧ χ = .neg a

/-- To deny an implication is to have the negated consequent and to conclude the negated
antecedent. -/
theorem denies_imp {a b : Formula} :
    Denies (.imp a b) ψ χ ↔ (Formula.neg b).agrees ψ = true ∧ χ = .neg a := by
  constructor
  · intro h
    obtain ⟨_, _, same, denied, rfl⟩ := h
    cases same
    exact ⟨denied, rfl⟩
  · intro h
    obtain ⟨denied, rfl⟩ := h
    exact ⟨a, b, rfl, denied, rfl⟩

theorem outcome_imp (a b ψ : Formula) :
    outcome c (.imp a b) ψ = .ok (
      if !(Formula.neg b).agrees ψ then .rejected (.notNegatedConsequent ψ (.imp a b))
      else if !(Formula.neg a).agrees c then .rejected (.notNegatedAntecedent c (.imp a b))
      else .valid) := rfl

/-- The check accepts whatever agrees with the negated antecedent. -/
theorem outcome_decides (c φ ψ : Formula) :
    Outcome.Decides (outcome c φ ψ) (∃ χ, Denies φ ψ χ ∧ χ.agrees c = true) := by
  by_cases head : φ.connective = .conditional
  · obtain ⟨a, b, rfl⟩ := connective_eq_conditional.mp head
    rw [outcome_imp]
    refine .congr (.guard trivial fun _ => .guard trivial fun _ => .valid trivial) ?_
    simp only [Bool.not_eq_true', Bool.not_eq_false, and_true, denies_imp, and_assoc,
      exists_and_left, exists_eq_left]
  · rw [outcome, if_pos head]
    refine .wrongOrder ?_
    intro h
    obtain ⟨χ, ⟨a, b, rfl, -⟩, -⟩ := h
    exact head rfl

/-- The advisor finds the negated antecedent where the other premise denies the consequent. -/
theorem deny?_yields (φ ψ : Formula) : Advisor.Yields (deny? φ ψ) (Denies φ ψ) := by
  by_cases head : φ.connective = .conditional
  · obtain ⟨a, b, rfl⟩ := connective_eq_conditional.mp head
    have deny : deny? (.imp a b) ψ =
        .ok (if (Formula.neg b).agrees ψ then some (.neg a) else none) := rfl
    rw [deny]
    by_cases denied : (Formula.neg b).agrees ψ = true
    · rw [if_pos denied]
      exact .some fun χ => by simp only [denies_imp, denied, true_and]
    · rw [if_neg denied]
      exact .none fun χ denies => denied (denies_imp.mp denies).1
  · rw [deny?, if_pos head]
    refine .none ?_
    intro χ h
    obtain ⟨a, b, rfl, -⟩ := h
    exact head rfl

theorem triesBothOrders : rule.TriesBothOrders outcome .implication :=
  ⟨⟨fun _ => rfl, fun _ => rfl⟩, rfl⟩

/-- The premises are an implication and what agrees with its negated consequent, and the conclusion
agrees with its negated antecedent. -/
theorem accepts_iff :
    rule.Accepts c ps ↔ ∃ φ ψ, InEitherOrder ps φ ψ ∧ ∃ χ, Denies φ ψ χ ∧ χ.agrees c = true :=
  triesBothOrders.accepts_iff (outcome_decides c)

theorem answers (shape : rule.shapeDiagnostic? ⟨c, ps⟩ = none) : Answers (rule.check ⟨c, ps⟩) :=
  triesBothOrders.answers (fun φ ψ _ => (outcome_decides c φ ψ).answers) shape

/-- The advisor proposes the negated antecedent of an implication whose consequent is denied. -/
theorem proposes_iff : rule.Proposes ps χ ↔ ∃ φ ψ, InEitherOrder ps φ ψ ∧ Denies φ ψ χ :=
  Advisor.exists_inEitherOrder_iff deny?_yields

theorem advises (wf : ∀ p ∈ ps, p.WellFormed) : Advises (Advisor.inEitherOrder deny? ps) := by
  refine Advisor.advises_inEitherOrder deny?_yields ?_ wf
  rintro φ ψ χ ⟨a, b, rfl, -, rfl⟩ wf -
  exact .neg wf.of_imp.1

end ModusTollens

namespace ConditionalProof

theorem diagnose_subproof (a b assumption ψ : Formula) :
    diagnose (.imp a b) (.subproof [assumption] ψ) = .ok (
      if a ≠ assumption then some (.antecedentNotAssumed a assumption)
      else if b ≠ ψ then some (.consequentNotConcluded b ψ)
      else none) := rfl

/-- On a subproof, the check accepts when it has one assumption and is what the conclusion says. -/
theorem diagnose_decides (c : Formula) (assumptions : List Formula) (ψ : Formula) :
    Decides (diagnose c (.subproof assumptions ψ)) (∃ a, assumptions = [a] ∧ c = .imp a ψ) := by
  by_cases one : assumptions.length = 1
  · obtain ⟨assumption, rfl⟩ := List.length_eq_one_iff.mp one
    by_cases head : c.connective = .conditional
    · obtain ⟨a, b, rfl⟩ := connective_eq_conditional.mp head
      rw [diagnose_subproof]
      refine .congr (.guard trivial fun _ => .guard trivial fun _ => .accept trivial) ?_
      simp only [ne_eq, not_not, and_true, List.cons.injEq, Formula.imp.injEq, exists_eq_left']
    · have rejected : diagnose c (.subproof [assumption] ψ) =
          .ok (some (.wrongForm Shape.implication.text)) := by
        rw [diagnose, Misuse.assumptions_subproof, ok_bind, if_neg (not_not.mpr one), if_pos head]
      rw [rejected]
      refine .reject trivial ?_
      intro h
      obtain ⟨_, -, rfl⟩ := h
      exact head rfl
  · rw [diagnose, Misuse.assumptions_subproof, ok_bind, if_pos one]
    refine .reject trivial ?_
    intro h
    obtain ⟨_, rfl, -⟩ := h
    exact one rfl

/-- The rule is for one subproof. -/
theorem shapeDiagnostic?_eq_none_iff :
    rule.shapeDiagnostic? ⟨c, ps⟩ = none ↔ ∃ assumptions ψ, ps = [.subproof assumptions ψ] := by
  rw [Rule.shapeDiagnostic?_eq_none_iff]
  constructor
  · intro h
    obtain ⟨count, -, subproofs⟩ := h
    obtain ⟨p, rfl⟩ := List.length_eq_one_iff.mp count
    cases p with
    | plain φ => cases subproofs (.plain φ) List.mem_cons_self
    | subproof assumptions ψ => exact ⟨assumptions, ψ, rfl⟩
  · intro h
    obtain ⟨assumptions, ψ, rfl⟩ := h
    exact ⟨rfl, nofun, fun p mem => List.mem_singleton.mp mem ▸ rfl⟩

/-- The only premise is a subproof from one assumption, and the conclusion is the implication that
it shows. -/
theorem accepts_iff : rule.Accepts c ps ↔ ∃ a b, ps = [.subproof [a] b] ∧ c = .imp a b := by
  rw [Rule.accepts_iff, shapeDiagnostic?_eq_none_iff]
  constructor
  · intro h
    obtain ⟨⟨assumptions, ψ, rfl⟩, accepted⟩ := h
    obtain ⟨a, rfl, shown⟩ := (diagnose_decides c assumptions ψ).accepts.mp accepted
    exact ⟨a, ψ, rfl, shown⟩
  · intro h
    obtain ⟨a, b, rfl, rfl⟩ := h
    exact ⟨⟨[a], b, rfl⟩, (diagnose_decides _ [a] b).accepts.mpr ⟨a, rfl, rfl⟩⟩

theorem answers (shape : rule.shapeDiagnostic? ⟨c, ps⟩ = none) : Answers (rule.check ⟨c, ps⟩) := by
  obtain ⟨assumptions, ψ, rfl⟩ := shapeDiagnostic?_eq_none_iff.mp shape
  exact (diagnose_decides c assumptions ψ).answers

/-- The advisor has something to say of a single subproof from one assumption only. -/
theorem advise_cases (ps : List Premise) :
    (∃ a b, ps = [.subproof [a] b] ∧ advise ps = .ok (some [.imp a b])) ∨
      advise ps = .ok none := by
  rcases ps with _ | ⟨p, _ | ⟨q, ps⟩⟩
  · exact .inr rfl
  · cases p with
    | plain φ => exact .inr rfl
    | subproof assumptions ψ =>
      rcases assumptions with _ | ⟨a, _ | ⟨b, rest⟩⟩
      · exact .inr rfl
      · exact .inl ⟨a, ψ, rfl, rfl⟩
      · exact .inr rfl
  · exact .inr rfl

/-- The advisor proposes the implication from the one assumption of a subproof to its conclusion. -/
theorem proposes_iff : rule.Proposes ps χ ↔ ∃ a b, ps = [.subproof [a] b] ∧ χ = .imp a b := by
  constructor
  · intro h
    obtain ⟨φs, proposed, mem⟩ := h
    have proposed : advise ps = .ok (some φs) := proposed
    rcases advise_cases ps with ⟨a, b, rfl, said⟩ | silent
    · cases said.symm.trans proposed
      exact ⟨a, b, rfl, List.mem_singleton.mp mem⟩
    · cases silent.symm.trans proposed
  · intro h
    obtain ⟨a, b, rfl, rfl⟩ := h
    exact ⟨[.imp a b], rfl, List.mem_cons_self⟩

theorem advises (wf : ∀ p ∈ ps, p.WellFormed) : Advises (advise ps) := by
  rcases advise_cases ps with ⟨a, b, rfl, said⟩ | silent
  · have parts : (∀ φ ∈ [a], φ.WellFormed) ∧ b.WellFormed := wf _ List.mem_cons_self
    rw [said]
    refine .some fun φ mem => ?_
    rw [List.mem_singleton.mp mem]
    exact .imp (parts.1 a List.mem_cons_self) parts.2
  · rw [silent]
    exact .none

end ConditionalProof

end NaturalDeduction
