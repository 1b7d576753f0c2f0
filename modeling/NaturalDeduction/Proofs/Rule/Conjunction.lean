import NaturalDeduction.Proofs.Formula.Flattening
import NaturalDeduction.Proofs.Rule.Advice
import NaturalDeduction.Rule.Conjunction

/-!
# What the rules for conjunctions accept and propose

The introduction compares premises and conjuncts as sets, and their numbers. The elimination
compares what the flattened premise is made of with what the conclusion is, or is made of.
-/

namespace NaturalDeduction

variable {c φ χ : Formula} {ps : List Premise}

@[simp] theorem Premise.map_formula_map_plain (φs : List Formula) :
    (φs.map Premise.plain).map Premise.formula = φs := by
  rw [List.map_map]
  exact List.map_id φs

namespace Conjunction

/-- The check wants the premises and the conjuncts to be the same formulas. -/
theorem diagnose_decides (c : Formula) (ψs : List Formula) :
    Decides (.ok (diagnose c ψs)) (∃ φs, c = .conj φs ∧ ∀ χ, χ ∈ ψs ↔ χ ∈ φs) := by
  by_cases head : ∃ φs, c = .conj φs
  · obtain ⟨φs, rfl⟩ := head
    have each : Decides
        (.ok ((ψs.find? (· ∉ φs)).map (.notConjunctOfConclusion · (.conj φs)))) (ψs ⊆ φs) :=
      (decides_find? (fun _ => by trivial) ψs).congr (by simp only [decide_not, Bool.not_eq_false',
        decide_eq_true_eq, List.subset_def])
    have every : Decides (.ok ((φs.find? (· ∉ ψs)).map .absentFormula)) (φs ⊆ ψs) :=
      (decides_find? Diagnostic.isCause_absentFormula φs).congr (by simp only [decide_not,
        Bool.not_eq_false', decide_eq_true_eq, List.subset_def])
    refine (each.orElse every).congr ⟨?_, ?_⟩
    · intro h
      exact ⟨φs, rfl, fun χ => ⟨fun mem => h.1 mem, fun mem => h.2 mem⟩⟩
    · intro h
      obtain ⟨_, same, mem⟩ := h
      cases same
      exact ⟨fun χ inside => (mem χ).mp inside, fun χ inside => (mem χ).mpr inside⟩
  · have rejected : diagnose c ψs = some (.wrongForm Shape.conjunction.text) := by
      unfold diagnose
      split
      · exact absurd ⟨_, rfl⟩ head
      · rfl
    rw [rejected]
    exact .reject trivial fun h => head ⟨h.choose, h.choose_spec.1⟩

/-- The conclusion is a conjunction, and the premises are its conjuncts, each at least once and as
many as they are. -/
theorem accepts_iff :
    rule.Accepts c ps ↔ ∃ φs ψs : List Formula, c = .conj φs ∧ ps = ψs.map .plain ∧
      ψs.length = φs.length ∧ ∀ χ, χ ∈ ψs ↔ χ ∈ φs := by
  have checked (ψs : List Formula) :
      rule.check ⟨c, ψs.map .plain⟩ = .ok none ↔ ∃ φs, c = .conj φs ∧ ∀ χ, χ ∈ ψs ↔ χ ∈ φs := by
    rw [← (diagnose_decides c ψs).accepts]
    simp only [rule, Premise.map_formula_map_plain]
  rw [Rule.accepts_iff_plain rfl]
  constructor
  · intro h
    obtain ⟨ψs, rfl, count, accepted⟩ := h
    obtain ⟨φs, rfl, mem⟩ := (checked ψs).mp accepted
    exact ⟨φs, ψs, rfl, rfl, count, mem⟩
  · intro h
    obtain ⟨φs, ψs, rfl, rfl, count, mem⟩ := h
    exact ⟨ψs, rfl, count, (checked ψs).mpr ⟨φs, rfl, mem⟩⟩

/-- The same by what can be counted and compared, of whatever conclusion and premises. -/
theorem accepts_iff_same_members :
    rule.Accepts c ps ↔ c.connective = .conjunction ∧ (∀ p ∈ ps, p.isSubproof = false) ∧
      ps.length = c.operands.length ∧ ∀ χ, χ ∈ ps.map Premise.formula ↔ χ ∈ c.operands := by
  rw [accepts_iff, Rule.plain_iff_exists_map]
  constructor
  · intro h
    obtain ⟨φs, ψs, rfl, rfl, count, mem⟩ := h
    rw [List.length_map, Premise.map_formula_map_plain]
    exact ⟨rfl, ⟨ψs, rfl⟩, count, mem⟩
  · intro h
    obtain ⟨head, ⟨ψs, rfl⟩, count, mem⟩ := h
    obtain ⟨φs, rfl⟩ := (Formula.connective_eq_junction (j := .conj)).mp head
    rw [List.length_map] at count
    rw [Premise.map_formula_map_plain] at mem
    exact ⟨φs, ψs, rfl, rfl, count, mem⟩

theorem answers : Answers (rule.check ⟨c, ps⟩) := (diagnose_decides c _).answers

/-- Of two plain premises or more the advisor makes their conjunction. -/
theorem advise_map_plain {φs : List Formula} (two : 2 ≤ φs.length) :
    advise (φs.map .plain) = .ok (some [.conj φs]) := by
  have enough : ¬φs.length < 2 := Nat.not_lt.mpr two
  have joined : Misuse.join .conj φs = .ok (.conj φs) := by
    rw [Misuse.join, Formula.build_junction .conj two]
    rfl
  simp only [advise, Advisor.plainFormulas?_map_plain, if_neg enough, joined, ok_bind]

/-- The advisor has something to say of two plain premises or more. -/
theorem advise_cases (ps : List Premise) :
    (∃ φs : List Formula, ps = φs.map .plain ∧ 2 ≤ φs.length) ∨ advise ps = .ok none := by
  rcases Advisor.plainFormulas?_cases ps with ⟨φs, rfl⟩ | refused
  · by_cases few : φs.length < 2
    · right
      simp only [advise, Advisor.plainFormulas?_map_plain, if_pos few]
    · exact .inl ⟨φs, rfl, Nat.le_of_not_lt few⟩
  · right
    simp only [advise, refused]

/-- The advisor proposes the conjunction of the premises in the order given. -/
theorem proposes_iff :
    rule.Proposes ps χ ↔ ∃ φs : List Formula, ps = φs.map .plain ∧ 2 ≤ φs.length ∧
      χ = .conj φs := by
  constructor
  · intro h
    obtain ⟨φs, proposed, mem⟩ := h
    have proposed : advise ps = .ok (some φs) := proposed
    rcases advise_cases ps with ⟨ψs, rfl, two⟩ | silent
    · cases (advise_map_plain two).symm.trans proposed
      exact ⟨ψs, rfl, two, List.mem_singleton.mp mem⟩
    · cases silent.symm.trans proposed
  · intro h
    obtain ⟨φs, rfl, two, rfl⟩ := h
    exact ⟨[.conj φs], advise_map_plain two, List.mem_cons_self⟩

theorem advises (wf : ∀ p ∈ ps, p.WellFormed) : Advises (advise ps) := by
  rcases advise_cases ps with ⟨φs, rfl, two⟩ | silent
  · have each : ∀ φ ∈ φs, φ.WellFormed := fun φ mem => wf (.plain φ) (List.mem_map_of_mem mem)
    rw [advise_map_plain two]
    refine .some fun χ mem => ?_
    rw [List.mem_singleton.mp mem]
    exact .junction two each
  · rw [silent]
    exact .none

end Conjunction

namespace Simplification

/-- A conjunct is recognised up to double negation. -/
theorem isConjunct_iff {φs : List Formula} :
    isConjunct φs χ = true ↔ ∃ φ ∈ φs, φ.agrees χ = true := by
  rw [isConjunct, List.any_eq_true]

/-- The conclusion is the conjunction, or one of its flattened conjuncts, or a conjunction of some
of them, up to double negation. -/
def IsPart (conjunction c : Formula) : Prop :=
  c.agrees conjunction = true ∨ isConjunct conjunction.flatten.operands c = true ∨
    ∃ χs, c = .conj χs ∧
      ∀ χ ∈ c.flatten.operands, isConjunct conjunction.flatten.operands χ = true

theorem diagnose_conj (c : Formula) (φs : List Formula) :
    diagnose c (.conj φs) =
      if c.agrees (.conj φs) || isConjunct (Formula.conj φs).flatten.operands c then none
      else match c with
        | .conj _ => (c.flatten.operands.find?
            (!isConjunct (Formula.conj φs).flatten.operands ·)).map .partNotInPremise
        | _ => some (.notConjunctOfPremise c (.conj φs)) := rfl

/-- The check wants a conjunction that the conclusion is a part of. -/
theorem diagnose_decides (c φ : Formula) :
    Decides (.ok (diagnose c φ)) (∃ φs, φ = .conj φs ∧ IsPart φ c) := by
  by_cases head : ∃ φs, φ = .conj φs
  · obtain ⟨φs, rfl⟩ := head
    rw [diagnose_conj]
    by_cases whole : (c.agrees (.conj φs) || isConjunct (Formula.conj φs).flatten.operands c) = true
    · rw [if_pos whole]
      refine .accept ⟨φs, rfl, ?_⟩
      rcases Bool.or_eq_true_iff.mp whole with same | conjunct
      · exact .inl same
      · exact .inr (.inl conjunct)
    · rw [if_neg whole]
      have neither := whole
      rw [Bool.or_eq_true, not_or] at neither
      split
      next χs =>
        -- Only a conjunction of conjuncts is left to be.
        refine (decides_find? (fun _ => by trivial) _).congr ⟨?_, ?_⟩
        · intro each
          exact ⟨φs, rfl, .inr (.inr ⟨χs, rfl, fun χ mem => by simpa using each χ mem⟩)⟩
        · intro h
          obtain ⟨_, -, same | conjunct | ⟨_, -, each⟩⟩ := h
          · exact absurd same neither.1
          · exact absurd conjunct neither.2
          · intro χ mem
            rw [each χ mem]
            rfl
      next other =>
        refine .reject trivial fun h => ?_
        obtain ⟨_, -, same | conjunct | ⟨χs, same, -⟩⟩ := h
        · exact neither.1 same
        · exact neither.2 conjunct
        · exact other χs same
  · have rejected : diagnose c φ = some (.notConjunction φ) := by
      unfold diagnose
      split
      · exact absurd ⟨_, rfl⟩ head
      · rfl
    rw [rejected]
    exact .reject trivial fun h => head ⟨h.choose, h.choose_spec.1⟩

theorem decidesOne : rule.DecidesOne fun c φ => ∃ φs, φ = .conj φs ∧ IsPart φ c :=
  ⟨⟨fun _ => rfl, fun _ => rfl⟩, diagnose_decides⟩

/-- The premise is a conjunction, and the conclusion is part of it. -/
theorem accepts_iff :
    rule.Accepts c ps ↔ ∃ φs, ps = [.plain (.conj φs)] ∧ IsPart (.conj φs) c := by
  rw [decidesOne.accepts_iff]
  constructor
  · intro h
    obtain ⟨_, rfl, φs, rfl, part⟩ := h
    exact ⟨φs, rfl, part⟩
  · intro h
    obtain ⟨φs, rfl, part⟩ := h
    exact ⟨_, rfl, φs, rfl, part⟩

theorem answers (shape : rule.shapeDiagnostic? ⟨c, ps⟩ = none) : Answers (rule.check ⟨c, ps⟩) :=
  decidesOne.answers shape

/-- The advisor has something to say of a conjunction: its flattened conjuncts. -/
theorem advise_eq_some_iff {φs : List Formula} :
    advise φ = some φs ↔ ∃ ψs, φ = .conj ψs ∧ φ.flatten.operands = φs := by
  unfold advise
  split
  next ψs =>
    constructor
    · intro said
      exact ⟨ψs, rfl, Option.some.inj said⟩
    · intro h
      exact congrArg some h.choose_spec.2
  next other =>
    refine iff_of_false nofun fun h => ?_
    obtain ⟨ψs, same, -⟩ := h
    exact other ψs same

/-- The advisor proposes every flattened conjunct of the premise. -/
theorem proposes_iff :
    rule.Proposes ps χ ↔
      ∃ φs, ps = [.plain (.conj φs)] ∧ χ ∈ (Formula.conj φs).flatten.operands := by
  constructor
  · intro h
    obtain ⟨φs, proposed, mem⟩ := h
    obtain ⟨φ, rfl, said⟩ := Advisor.ofOne_eq_some_iff.mp proposed
    obtain ⟨ψs, rfl, rfl⟩ := advise_eq_some_iff.mp (Except.ok.inj said)
    exact ⟨ψs, rfl, mem⟩
  · intro h
    obtain ⟨φs, rfl, mem⟩ := h
    exact ⟨_, rfl, mem⟩

theorem advises (wf : ∀ p ∈ ps, p.WellFormed) :
    Advises (Advisor.ofOne (fun φ => .ok (advise φ)) ps) := by
  refine Advisor.advises_ofOne fun φ single => ?_
  refine ⟨advise φ, rfl, fun φs said χ mem => ?_⟩
  obtain ⟨ψs, rfl, rfl⟩ := advise_eq_some_iff.mp said
  have wfφ : (Formula.conj ψs).WellFormed := wf (.plain _) (single ▸ List.mem_cons_self)
  exact wfφ.flatten.of_junction.2 χ mem

end Simplification

end NaturalDeduction
