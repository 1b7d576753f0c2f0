import NaturalDeduction.Proofs.Formula.Flattening
import NaturalDeduction.Proofs.Rule.Conjunction
import NaturalDeduction.Proofs.Rule.Disjunction
import NaturalDeduction.Proofs.Verifier

/-!
# Nested conjuncts and disjuncts

Simplification draws the conjuncts of a conjunction, and addition introduces a disjunction from one
of its disjuncts. Both read nested junctions of one kind as one, so the question is which of the
formulas nested in the conjunction, or in the disjunction, they let pass.

They find what is nested among the flattened operands, and flattening goes on inside of these. A
nested formula that has a junction inside a junction of the same kind is therefore not found as it
stands, and neither is a junction halfway down.
-/

namespace NaturalDeduction

variable {φ χ : Formula} {φs : List Formula}

/-! ## Drawing a nested conjunct -/

namespace Simplification

/-- What agrees with a conjunct of the flattened premise agrees with an innermost conjunct,
flattened. -/
theorem isConjunct_flatten_iff :
    isConjunct (Formula.conj φs).flatten.operands χ = true ↔
      ∃ ψ, (Formula.conj φs).Nests .conj ψ ∧ ψ.connective ≠ .conjunction ∧
        ψ.flatten.agrees χ = true := by
  rw [isConjunct_iff]
  constructor
  · intro h
    obtain ⟨_, mem, agrees⟩ := h
    obtain ⟨ψ, nested, head, rfl⟩ := Formula.mem_operands_flatten_iff.mp mem
    exact ⟨ψ, nested, head, agrees⟩
  · intro h
    obtain ⟨ψ, nested, head, agrees⟩ := h
    exact ⟨ψ.flatten, Formula.mem_operands_flatten_iff.mpr ⟨ψ, nested, head, rfl⟩, agrees⟩

/-- A nested conjunction is a conjunction of conjuncts. -/
theorem isPart_of_nests_conj {ψs : List Formula}
    (nested : (Formula.conj φs).Nests .conj (.conj ψs)) : IsPart (.conj φs) (.conj ψs) := by
  refine .inr (.inr ⟨ψs, rfl, fun χ mem => ?_⟩)
  exact isConjunct_iff.mpr ⟨χ, nested.operands_flatten_subset mem, Formula.agrees_iff.mpr rfl⟩

/-- What is nested in a conjunction is a part of it when it is a conjunction or agrees with an
innermost conjunct, flattened. -/
theorem isPart_iff_of_nests (nested : (Formula.conj φs).Nests .conj χ) :
    IsPart (.conj φs) χ ↔
      χ.connective = .conjunction ∨
        ∃ ψ, (Formula.conj φs).Nests .conj ψ ∧ ψ.connective ≠ .conjunction ∧
          ψ.flatten.agrees χ = true := by
  rw [← isConjunct_flatten_iff]
  constructor
  · intro part
    rcases part with whole | conjunct | ⟨ψs, rfl, -⟩
    · -- What is nested in the premise is smaller, and never agrees with all of it.
      have smaller := nested.sizeOf_reduce_lt
      rw [Formula.agrees_iff.mp whole] at smaller
      exact absurd smaller (Nat.lt_irrefl _)
    · exact .inr conjunct
    · exact .inl rfl
  · intro h
    rcases h with head | conjunct
    · obtain ⟨ψs, rfl⟩ := (Formula.connective_eq_junction (j := .conj)).mp head
      exact isPart_of_nests_conj nested
    · exact .inr (.inl conjunct)

end Simplification

/-- From a conjunction the verifier accepts a formula that is nested in it, at any depth, exactly
when that is a conjunction itself or agrees with an innermost conjunct once the latter is flattened.
In particular it accepts every nested conjunct that is flat. -/
theorem Verifier.accepts_nested_conjunct_iff (v : Verifier) (nested : φ.Nests .conj χ) :
    v.Accepts .simplification χ [.plain φ] ↔
      χ.connective = .conjunction ∨
        ∃ ψ, φ.Nests .conj ψ ∧ ψ.connective ≠ .conjunction ∧ ψ.flatten.agrees χ = true := by
  obtain ⟨φs, rfl⟩ := Formula.connective_eq_junction.mp nested.connective_eq
  rw [accepts_iff, ← Simplification.isPart_iff_of_nests nested]
  show Simplification.rule.Accepts χ [.plain (.conj φs)] ↔ _
  rw [Simplification.accepts_iff]
  constructor
  · intro h
    obtain ⟨_, same, part⟩ := h
    cases same
    exact part
  · intro part
    exact ⟨φs, rfl, part⟩

/-- From `(P ∧ ¬¬(Q ∨ R)) ∧ S` the verifier accepts `¬¬(Q ∨ R)`. -/
theorem Verifier.accepts_nested_conjunct_of_flat :
    Accepts {} .simplification (.neg (.neg (.disj [.atom "Q", .atom "R"])))
      [.plain (.conj [.conj [.atom "P", .neg (.neg (.disj [.atom "Q", .atom "R"]))],
        .atom "S"])] := by
  have nested : (Formula.conj [.conj [.atom "P", .neg (.neg (.disj [.atom "Q", .atom "R"]))],
      .atom "S"]).Nests .conj (.neg (.neg (.disj [.atom "Q", .atom "R"]))) :=
    .inner List.mem_cons_self (.operand (List.mem_cons_of_mem _ List.mem_cons_self))
  exact (accepts_nested_conjunct_iff {} nested).mpr (.inr ⟨_, nested, by decide, by decide⟩)

/-- From `((P ∨ Q) ∨ R) ∧ S` the verifier does not accept `(P ∨ Q) ∨ R`, one of the two
conjuncts. -/
theorem Verifier.rejects_unflattened_conjunct :
    ¬∀ φ χ : Formula, φ.WellFormed → φ.Nests .conj χ →
      Accepts {} .simplification χ [.plain φ] := by
  intro accepts
  have accepted := accepts
    (.conj [.disj [.disj [.atom "P", .atom "Q"], .atom "R"], .atom "S"])
    (.disj [.disj [.atom "P", .atom "Q"], .atom "R"])
    (by decide) (.operand List.mem_cons_self)
  have rejected : Rejects {} .simplification (.disj [.disj [.atom "P", .atom "Q"], .atom "R"])
      [.plain (.conj [.disj [.disj [.atom "P", .atom "Q"], .atom "R"], .atom "S"])]
      (.notConjunctOfPremise (.disj [.disj [.atom "P", .atom "Q"], .atom "R"])
        (.conj [.disj [.disj [.atom "P", .atom "Q"], .atom "R"], .atom "S"])) := rfl
  cases accepted.symm.trans rejected

/-! ## Adding to a nested disjunct -/

/-- What is nested in a disjunction is found exactly when it is a direct disjunct, or else one that
is no disjunction and is flat. -/
theorem Verifier.accepts_nested_disjunct_iff (v : Verifier)
    (nested : (Formula.disj φs).Nests .disj χ) :
    v.Accepts .addition (.disj φs) [.plain χ] ↔
      χ ∈ φs ∨ χ.connective ≠ .disjunction ∧ χ.IsFlat := by
  have flattened : χ ∈ (Formula.disj φs).flatten.operands ↔
      χ.connective ≠ .disjunction ∧ χ.IsFlat := nested.mem_operands_flatten_iff
  rw [accepts_iff, ← flattened]
  show Addition.rule.Accepts (.disj φs) [.plain χ] ↔ _
  rw [Addition.accepts_iff]
  constructor
  · intro h
    obtain ⟨_, _, premise, conclusion, found⟩ := h
    cases premise
    cases conclusion
    exact found
  · intro found
    exact ⟨χ, φs, rfl, rfl, found⟩

/-- A formula that is nested in a disjunction yields it by addition if it is a direct disjunct, or
else an innermost and flat one; a disjunction halfway down does not. -/
theorem Verifier.accepts_nested_disjunct (v : Verifier)
    (nested : (Formula.disj φs).Nests .disj χ) :
    (χ ∈ φs ∨ χ.connective ≠ .disjunction ∧ χ.IsFlat →
      v.Accepts .addition (.disj φs) [.plain χ]) ∧
    (χ.connective = .disjunction → χ ∉ φs →
      v.Rejects .addition (.disj φs) [.plain χ] (.notDisjunctOfConclusion χ (.disj φs))) := by
  refine ⟨(v.accepts_nested_disjunct_iff nested).mpr, fun head direct => ?_⟩
  have flattened : χ ∉ (Formula.disj φs).flatten.operands := by
    intro mem
    exact (nested.mem_operands_flatten_iff.mp mem).1 head
  have rejected : Addition.diagnose (.disj φs) χ =
      some (.notDisjunctOfConclusion χ (.disj φs)) := by
    rw [Addition.diagnose_disj, if_neg (not_or.mpr ⟨direct, flattened⟩)]
  exact rejects_iff.mpr ⟨rfl, congrArg Except.ok rejected⟩

/-- In `(P ∨ (Q ∨ ¬(R ∧ S))) ∨ T`, addition finds `¬(R ∧ S)` and does not find `Q ∨ ¬(R ∧ S)`. -/
theorem Verifier.accepts_nested_disjunct_of_innermost :
    Accepts {} .addition
        (.disj [.disj [.atom "P", .disj [.atom "Q", .neg (.conj [.atom "R", .atom "S"])]],
          .atom "T"])
        [.plain (.neg (.conj [.atom "R", .atom "S"]))] ∧
      Rejects {} .addition
        (.disj [.disj [.atom "P", .disj [.atom "Q", .neg (.conj [.atom "R", .atom "S"])]],
          .atom "T"])
        [.plain (.disj [.atom "Q", .neg (.conj [.atom "R", .atom "S"])])]
        (.notDisjunctOfConclusion (.disj [.atom "Q", .neg (.conj [.atom "R", .atom "S"])])
          (.disj [.disj [.atom "P", .disj [.atom "Q", .neg (.conj [.atom "R", .atom "S"])]],
            .atom "T"])) := by
  have halfway : (Formula.disj [.disj [.atom "P", .disj [.atom "Q",
      .neg (.conj [.atom "R", .atom "S"])]], .atom "T"]).Nests .disj
        (.disj [.atom "Q", .neg (.conj [.atom "R", .atom "S"])]) :=
    .inner List.mem_cons_self (.operand (List.mem_cons_of_mem _ List.mem_cons_self))
  have innermost := halfway.trans (.operand (List.mem_cons_of_mem _ List.mem_cons_self))
  constructor
  · exact (accepts_nested_disjunct {} innermost).1 (.inr ⟨by decide, by decide⟩)
  · exact (accepts_nested_disjunct {} halfway).2 (by decide) (by decide)

/-- From `P ∨ Q` the verifier does not accept `((P ∨ Q) ∨ R) ∨ S`, in which it is a disjunct of a
disjunct. -/
theorem Verifier.rejects_halfway_disjunct :
    ¬∀ φ χ : Formula, φ.WellFormed → φ.Nests .disj χ → Accepts {} .addition φ [.plain χ] := by
  intro accepts
  have accepted := accepts
    (.disj [.disj [.disj [.atom "P", .atom "Q"], .atom "R"], .atom "S"])
    (.disj [.atom "P", .atom "Q"])
    (by decide) (.inner List.mem_cons_self (.operand List.mem_cons_self))
  have rejected : Rejects {} .addition
      (.disj [.disj [.disj [.atom "P", .atom "Q"], .atom "R"], .atom "S"])
      [.plain (.disj [.atom "P", .atom "Q"])]
      (.notDisjunctOfConclusion (.disj [.atom "P", .atom "Q"])
        (.disj [.disj [.disj [.atom "P", .atom "Q"], .atom "R"], .atom "S"])) := rfl
  cases accepted.symm.trans rejected

end NaturalDeduction
