import NaturalDeduction.Proofs.Agreement
import NaturalDeduction.Proofs.Formula.Atoms
import NaturalDeduction.Proofs.WrittenDisjuncts

/-!
# How far double negations in the conclusion are overlooked

Modus tollens, simplification and the disjunctive syllogism compare up to double negation. Only the
first accepts two conclusions that agree from the same premises throughout. The simplification asks
whether the conclusion is a conjunction, and flattens it, before any double negation is gone; the
disjunctive syllogism flattens it as well. A doubly negated junction is no junction then, and stays
whole.

So the two rules go by what the conclusion flattens to. Conclusions that agree but flatten to what
does not are told apart by premises that join `c` with `c → c`: the implication has more atoms than
whatever `c` is made of, so `c` can only be had from the rest.
-/

namespace NaturalDeduction

open Formula

variable {c c' φ χ : Formula} {ps : List Premise}

/-! ## A junction that a conclusion can be had from -/

namespace Formula

/-- The formula joined with the implication of it by itself. -/
def besideTautology (j : Junction) (c : Formula) : Formula := .junction j [c, .imp c c]

theorem WellFormed.besideTautology (wf : c.WellFormed) (j : Junction) :
    (Formula.besideTautology j c).WellFormed := by
  refine .junction (Nat.le_refl 2) fun φ mem => ?_
  rcases List.mem_pair.mp mem with rfl | rfl
  · exact wf
  · exact .imp wf wf

/-- Beside the tautology stand the operands that the conclusion contributes. -/
theorem operands_flatten_besideTautology (j : Junction) (c : Formula) :
    (besideTautology j c).flatten.operands = c.flatten.parts j ++ [(imp c c).flatten] := by
  rw [besideTautology, flatten_junction]
  rfl

/-- The implication has more atoms than the formula, so nothing with as few agrees with it. -/
theorem reduce_ne_reduce_flatten_imp_self (wf : c.WellFormed)
    (few : φ.atoms.length ≤ c.atoms.length) : φ.reduce ≠ (imp c c).flatten.reduce := by
  intro same
  have atoms_eq := atoms_eq_of_agrees (agrees_iff.mpr same)
  rw [atoms_flatten, atoms] at atoms_eq
  have one := wf.one_le_length_atoms
  rw [atoms_eq, List.length_append] at few
  omega

/-- What a formula contributes has no more atoms than the formula. -/
theorem length_atoms_le_of_mem_parts_flatten {j : Junction} (mem : φ ∈ c.flatten.parts j) :
    φ.atoms.length ≤ c.atoms.length := by
  rw [← atoms_flatten c]
  exact length_atoms_le_of_mem_parts mem

end Formula

/-! ## Simplification -/

namespace Simplification

/-- A conjunct is recognised by its reduced form. -/
theorem isConjunct_iff_mem_map {φs : List Formula} :
    isConjunct φs χ = true ↔ χ.reduce ∈ φs.map reduce := by
  simp only [isConjunct_iff, agrees_iff, List.mem_map]

/-- Both conclusions are conjunctions or neither is, and if they are, they flatten to the same
conjuncts, up to double negation and in whatever order and number. -/
structure SameConjuncts (c c' : Formula) : Prop where
  head : c.connective = .conjunction ↔ c'.connective = .conjunction
  conjuncts : c.connective = .conjunction →
    ∀ χ, χ ∈ c.flatten.operands.map reduce ↔ χ ∈ c'.flatten.operands.map reduce

theorem SameConjuncts.symm (same : SameConjuncts c c') : SameConjuncts c' c :=
  ⟨same.head.symm, fun head χ => (same.conjuncts (same.head.mpr head) χ).symm⟩

/-- Conclusions with the same conjuncts are parts of the same premises. -/
theorem isPart_of_sameConjuncts (agrees : c.agrees c' = true) (same : SameConjuncts c c')
    (part : IsPart φ c) : IsPart φ c' := by
  rw [agrees_iff] at agrees
  rcases part with whole | conjunct | ⟨χs, rfl, each⟩
  · refine .inl (agrees_iff.mpr ?_)
    rw [← agrees]
    exact agrees_iff.mp whole
  · refine .inr (.inl (isConjunct_iff_mem_map.mpr ?_))
    rw [← agrees]
    exact isConjunct_iff_mem_map.mp conjunct
  · obtain ⟨χs', rfl⟩ := (connective_eq_junction (j := .conj)).mp (same.head.mp rfl)
    refine .inr (.inr ⟨χs', rfl, fun χ mem => ?_⟩)
    obtain ⟨ψ, inside, reduced⟩ :=
      List.mem_map.mp ((same.conjuncts rfl χ.reduce).mpr (List.mem_map_of_mem mem))
    rw [isConjunct_iff_mem_map, ← reduced]
    exact isConjunct_iff_mem_map.mp (each ψ inside)

/-- Conclusions that agree and have the same conjuncts are treated alike. -/
theorem accepts_iff_of_sameConjuncts (agrees : c.agrees c' = true) (same : SameConjuncts c c') :
    rule.Accepts c ps ↔ rule.Accepts c' ps := by
  have agrees' : c'.agrees c = true := (agrees_comm c' c).trans agrees
  rw [accepts_iff, accepts_iff]
  constructor
  · intro h
    obtain ⟨φs, premise, part⟩ := h
    exact ⟨φs, premise, isPart_of_sameConjuncts agrees same part⟩
  · intro h
    obtain ⟨φs, premise, part⟩ := h
    exact ⟨φs, premise, isPart_of_sameConjuncts agrees' same.symm part⟩

/-- A conjunction is accepted from the premise in which a tautology stands beside it. -/
theorem accepts_besideTautology (head : c.connective = .conjunction) :
    rule.Accepts c [.plain (besideTautology .conj c)] := by
  obtain ⟨χs, rfl⟩ := (connective_eq_junction (j := .conj)).mp head
  refine accepts_iff.mpr ⟨_, rfl, .inr (.inr ⟨χs, rfl, fun χ mem => ?_⟩)⟩
  show isConjunct (besideTautology .conj (.conj χs)).flatten.operands χ = true
  rw [operands_flatten_besideTautology, ← operands_flatten_eq_parts]
  exact isConjunct_iff.mpr ⟨χ, List.mem_append_left _ mem, agrees_iff.mpr rfl⟩

/-- A conjunct with no more atoms than the formula is one of those that the formula contributes. -/
theorem mem_of_isConjunct_besideTautology (wf : c.WellFormed)
    (few : χ.atoms.length ≤ c.atoms.length)
    (conjunct : isConjunct (besideTautology .conj c).flatten.operands χ = true) :
    χ.reduce ∈ (c.flatten.parts .conj).map reduce := by
  rw [isConjunct_iff_mem_map, operands_flatten_besideTautology, List.map_append,
    List.mem_append] at conjunct
  rcases conjunct with own | implication
  · exact own
  · exact absurd (List.mem_singleton.mp implication) (reduce_ne_reduce_flatten_imp_self wf few)

/-- A conjunction is accepted beside the implication of it by itself. What agrees with it is
accepted there only if it is a conjunction too, and has no other conjuncts. -/
theorem conjunction_of_accepts_besideTautology (wf : c.WellFormed) (agrees : c.agrees c' = true)
    (head : c.connective = .conjunction)
    (accepted : rule.Accepts c' [.plain (besideTautology .conj c)]) :
    c'.connective = .conjunction ∧
      c'.flatten.operands.map reduce ⊆ c.flatten.operands.map reduce := by
  have few : c'.atoms.length ≤ c.atoms.length := by rw [atoms_eq_of_agrees agrees]
  obtain ⟨χs, rfl⟩ := (connective_eq_junction (j := .conj)).mp head
  rw [operands_flatten_eq_parts]
  obtain ⟨_, premise, part⟩ := accepts_iff.mp accepted
  cases premise
  rcases part with whole | conjunct | ⟨χs', rfl, each⟩
  · -- The premise has more atoms than the conclusions.
    have more := (wf.besideTautology .conj).length_atoms_lt List.mem_cons_self
    rw [← atoms_eq_of_agrees whole, atoms_eq_of_agrees agrees] at more
    exact absurd more (Nat.lt_irrefl _)
  · -- Each conjunct has fewer.
    obtain ⟨φ, mem, reduced⟩ := List.mem_map.mp (mem_of_isConjunct_besideTautology wf few conjunct)
    have fewer : φ.atoms.length < (Formula.conj χs).flatten.atoms.length :=
      wf.flatten.length_atoms_lt mem
    rw [atoms_flatten, atoms_eq_of_agrees agrees,
      atoms_eq_of_agrees (agrees_iff.mpr reduced)] at fewer
    exact absurd fewer (Nat.lt_irrefl _)
  · refine ⟨rfl, fun ω mem => ?_⟩
    obtain ⟨χ, inside, rfl⟩ := List.mem_map.mp mem
    rw [operands_flatten_eq_parts] at inside
    have fewer := length_atoms_le_of_mem_parts_flatten inside
    rw [← operands_flatten_eq_parts] at inside
    exact mem_of_isConjunct_besideTautology wf (Nat.le_trans fewer few) (each χ inside)

/-- Conclusions that agree are accepted from the same premises exactly when both or neither is a
conjunction, and both have the same conjuncts. -/
theorem accepts_alike_iff (wf : c.WellFormed) (wf' : c'.WellFormed) (agrees : c.agrees c' = true) :
    (∀ ps, (∀ p ∈ ps, p.WellFormed) → (rule.Accepts c ps ↔ rule.Accepts c' ps)) ↔
      SameConjuncts c c' := by
  constructor
  · intro alike
    have agrees' : c'.agrees c = true := (agrees_comm c' c).trans agrees
    have usable {d : Formula} (wfd : d.WellFormed) :
        ∀ p ∈ [Premise.plain (besideTautology .conj d)], p.WellFormed :=
      List.forall_mem_singleton.mpr (wfd.besideTautology .conj)
    have forward (head : c.connective = .conjunction) :=
      conjunction_of_accepts_besideTautology wf agrees head
        ((alike _ (usable wf)).mp (accepts_besideTautology head))
    have backward (head : c'.connective = .conjunction) :=
      conjunction_of_accepts_besideTautology wf' agrees' head
        ((alike _ (usable wf')).mpr (accepts_besideTautology head))
    refine ⟨⟨fun head => (forward head).1, fun head => (backward head).1⟩, fun head χ => ?_⟩
    exact ⟨fun mem => (backward (forward head).1).2 mem, fun mem => (forward head).2 mem⟩
  · intro same ps _
    exact accepts_iff_of_sameConjuncts agrees same

end Simplification

/-! ## Disjunctive syllogism -/

namespace DisjunctiveSyllogism

/-- The rule knows the conclusion only flattened, up to double negation. -/
theorem accepts_iff_of_agrees_flatten (wf : ∀ p ∈ ps, p.WellFormed)
    (same : c.flatten.agrees c'.flatten = true) : rule.Accepts c ps ↔ rule.Accepts c' ps := by
  simp only [accepts_iff wf, agrees_iff, agrees_iff.mp same]

/-- A disjunction of `c` and the implication of it by itself, and what denies the implication. -/
def detachingPremises (c : Formula) : List Premise :=
  [.plain (besideTautology .disj c), .plain (.neg (imp c c).flatten)]

theorem wellFormed_detachingPremises (wf : c.WellFormed) :
    ∀ p ∈ detachingPremises c, p.WellFormed := by
  intro p mem
  rcases List.mem_pair.mp mem with rfl | rfl
  · exact wf.besideTautology .disj
  · exact .neg (WellFormed.imp wf wf).flatten

/-- What is left when the implication is denied is `c`, flattened. -/
theorem accepts_detachingPremises_iff (wf : c.WellFormed) :
    rule.Accepts c' (detachingPremises c) ↔ c.flatten.agrees c'.flatten = true := by
  rw [accepts_iff (wellFormed_detachingPremises wf)]
  constructor
  · intro h
    obtain ⟨φ, ψ, pair, χ, resolves, agrees⟩ := h
    rcases InEitherOrder.eq_or_swap (.inl rfl) pair with ⟨rfl, rfl⟩ | ⟨rfl, rfl⟩
    · obtain ⟨front, d, back, split, denied, rfl⟩ := resolves_disj.mp resolves
      replace split := (operands_flatten_besideTautology .disj c).symm.trans split
      have absent : d ∉ c.flatten.parts .disj := fun mem =>
        reduce_ne_reduce_flatten_imp_self wf (length_atoms_le_of_mem_parts_flatten mem)
          (agrees_iff.mp (agrees_neg_iff.mp denied))
      obtain ⟨rfl, -, rfl⟩ := (List.append_cons_inj_of_notMem absent List.not_mem_nil).mp split
      rw [List.append_nil, joint_parts wf.flatten] at agrees
      exact agrees
    · obtain ⟨_, _, _, _, disjunction, -⟩ := resolves
      cases disjunction
  · intro agrees
    refine ⟨_, _, .inl rfl, c.flatten, resolves_disj.mpr ?_, agrees⟩
    refine ⟨c.flatten.parts .disj, (imp c c).flatten, [], operands_flatten_besideTautology .disj c,
      agrees_iff.mpr rfl, ?_⟩
    rw [List.append_nil, joint_parts wf.flatten]

/-- Conclusions are accepted from the same premises exactly when they flatten to the same formula,
up to double negation. -/
theorem accepts_alike_iff (wf : c.WellFormed) :
    (∀ ps, (∀ p ∈ ps, p.WellFormed) → (rule.Accepts c ps ↔ rule.Accepts c' ps)) ↔
      c.flatten.agrees c'.flatten = true := by
  constructor
  · intro alike
    have own : rule.Accepts c (detachingPremises c) :=
      (accepts_detachingPremises_iff wf).mpr (agrees_iff.mpr rfl)
    exact (accepts_detachingPremises_iff wf).mp
      ((alike _ (wellFormed_detachingPremises wf)).mp own)
  · intro same ps wf
    exact accepts_iff_of_agrees_flatten wf same

end DisjunctiveSyllogism

/-! ## The three rules together -/

/-- Modus tollens treats conclusions alike that agree up to double negation. -/
theorem ModusTollens.accepts_iff_of_agrees (agrees : c.agrees c' = true) :
    rule.Accepts c ps ↔ rule.Accepts c' ps := by
  simp only [accepts_iff, agrees_iff, agrees_iff.mp agrees]

namespace Verifier

/-- From whatever well-formed premises, the verifier accepts both conclusions by the rule or
neither. -/
def TreatsAlike (v : Verifier) (id : RuleId) (c c' : Formula) : Prop :=
  ∀ ps : List Premise, (∀ p ∈ ps, p.WellFormed) → (v.Accepts id c ps ↔ v.Accepts id c' ps)

/-- Conclusions that agree up to double negation are treated alike by modus tollens. The
simplification treats them alike exactly when both or neither is a conjunction, and of the same
flattened conjuncts; the disjunctive syllogism exactly when they still agree once they are
flattened. -/
theorem treats_alike_iff_of_agrees (v : Verifier) (wf : c.WellFormed) (wf' : c'.WellFormed)
    (agrees : c.agrees c' = true) :
    v.TreatsAlike .modusTollens c c' ∧
    (v.TreatsAlike .simplification c c' ↔ Simplification.SameConjuncts c c') ∧
    (v.TreatsAlike .disjunctiveSyllogism c c' ↔ c.flatten.agrees c'.flatten = true) := by
  simp only [TreatsAlike, accepts_iff]
  refine ⟨fun ps _ => ModusTollens.accepts_iff_of_agrees agrees, ?_, ?_⟩
  · exact Simplification.accepts_alike_iff wf wf' agrees
  · exact DisjunctiveSyllogism.accepts_alike_iff wf

/-- The conclusions `¬¬P ∧ (Q ∨ R)` and `P ∧ (Q ∨ ¬¬R)` are treated alike by all three rules. -/
theorem treats_alike_of_negated_atoms :
    TreatsAlike {} .modusTollens
        (.conj [.neg (.neg (.atom "P")), .disj [.atom "Q", .atom "R"]])
        (.conj [.atom "P", .disj [.atom "Q", .neg (.neg (.atom "R"))]]) ∧
      TreatsAlike {} .simplification
        (.conj [.neg (.neg (.atom "P")), .disj [.atom "Q", .atom "R"]])
        (.conj [.atom "P", .disj [.atom "Q", .neg (.neg (.atom "R"))]]) ∧
      TreatsAlike {} .disjunctiveSyllogism
        (.conj [.neg (.neg (.atom "P")), .disj [.atom "Q", .atom "R"]])
        (.conj [.atom "P", .disj [.atom "Q", .neg (.neg (.atom "R"))]]) := by
  have agrees : (Formula.conj [.neg (.neg (.atom "P")), .disj [.atom "Q", .atom "R"]]).agrees
      (.conj [.atom "P", .disj [.atom "Q", .neg (.neg (.atom "R"))]]) = true := by decide
  obtain ⟨tollens, simplification, syllogism⟩ :=
    treats_alike_iff_of_agrees {} (by decide) (by decide) agrees
  exact ⟨tollens, simplification.mpr ⟨Iff.rfl, fun _ _ => Iff.rfl⟩, syllogism.mpr (by decide)⟩

/-- From `(P ∧ Q) ∧ R` the verifier accepts `P ∧ Q` and not `¬¬(P ∧ Q)`. From `((P ∨ Q) ∨ R) ∨ S`
and `¬S` it accepts `(P ∨ Q) ∨ R` and not `¬¬(P ∨ Q) ∨ R`. -/
theorem rejects_doubly_negated_junction :
    (¬∀ (ps : List Premise) (c c' : Formula), (∀ p ∈ ps, p.WellFormed) → c.WellFormed →
      c'.WellFormed → c.agrees c' = true →
        (Accepts {} .simplification c ps ↔ Accepts {} .simplification c' ps)) ∧
    ¬∀ (ps : List Premise) (c c' : Formula), (∀ p ∈ ps, p.WellFormed) → c.WellFormed →
      c'.WellFormed → c.agrees c' = true →
        (Accepts {} .disjunctiveSyllogism c ps ↔ Accepts {} .disjunctiveSyllogism c' ps) := by
  constructor
  · intro alike
    have accepted : Accepts {} .simplification (.conj [.atom "P", .atom "Q"])
        [.plain (.conj [.conj [.atom "P", .atom "Q"], .atom "R"])] := rfl
    have rejected : Rejects {} .simplification (.neg (.neg (.conj [.atom "P", .atom "Q"])))
        [.plain (.conj [.conj [.atom "P", .atom "Q"], .atom "R"])]
        (.notConjunctOfPremise (.neg (.neg (.conj [.atom "P", .atom "Q"])))
          (.conj [.conj [.atom "P", .atom "Q"], .atom "R"])) := rfl
    have accepted' := (alike _ _ (.neg (.neg (.conj [.atom "P", .atom "Q"]))) (by decide)
      (by decide) (by decide) (by decide)).mp accepted
    cases accepted'.symm.trans rejected
  · intro alike
    have accepted : Accepts {} .disjunctiveSyllogism
        (.disj [.disj [.atom "P", .atom "Q"], .atom "R"])
        [.plain (.disj [.disj [.disj [.atom "P", .atom "Q"], .atom "R"], .atom "S"]),
          .plain (.neg (.atom "S"))] := rfl
    have rejected : Rejects {} .disjunctiveSyllogism
        (.disj [.neg (.neg (.disj [.atom "P", .atom "Q"])), .atom "R"])
        [.plain (.disj [.disj [.disj [.atom "P", .atom "Q"], .atom "R"], .atom "S"]),
          .plain (.neg (.atom "S"))]
        (.notRemainder (.disj [.neg (.neg (.disj [.atom "P", .atom "Q"])), .atom "R"])
          [.disj [.atom "P", .atom "Q", .atom "R"]]) := rfl
    have accepted' := (alike _ _ (.disj [.neg (.neg (.disj [.atom "P", .atom "Q"])), .atom "R"])
      (by decide) (by decide) (by decide) (by decide)).mp accepted
    cases accepted'.symm.trans rejected

end Verifier

end NaturalDeduction
