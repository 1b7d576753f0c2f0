import NaturalDeduction.Proofs.Formula.Flattening
import NaturalDeduction.Proofs.Rule.Disjunction
import NaturalDeduction.Proofs.Verifier

/-!
# Disjunctions as they are written

A disjunction is eliminated by denying one of its disjuncts, or by cases. Whoever cites the
premises has the disjuncts in mind as they are written, while both rules look for them in the
flattened disjunction. The premise that denies a disjunct, and the assumptions of the cases, are not
flattened.

So the two sides meet only at flat disjuncts. The disjunctive syllogism compares up to double
negation, which makes no more disjuncts meet. A disjunct that is a disjunction itself falls apart
there, and can be denied as a whole only where the other disjunct is the same formula under double
negations and is taken for it.
-/

namespace NaturalDeduction

variable {c φ ψ : Formula} {φs front back : List Formula} {ps : List Premise}

/-- Lists that are the same without one element each are different unless these are the same. -/
theorem eq_of_append_cons_eq {α : Type} {a b : α} {before after before' after' : List α}
    (whole : before ++ a :: after = before' ++ b :: after')
    (rest : before ++ after = before' ++ after') : a = b := by
  have perm : (a :: (before ++ after)).Perm (b :: (before ++ after)) := by
    calc a :: (before ++ after)
      List.Perm _ (before ++ a :: after) := List.perm_middle.symm
      List.Perm _ (before' ++ b :: after') := .of_eq whole
      List.Perm _ (b :: (before' ++ after')) := List.perm_middle
      List.Perm _ (b :: (before ++ after)) := .of_eq (by rw [rest])
  have cancelled : ([a] ++ (before ++ after)).Perm ([b] ++ (before ++ after)) := perm
  exact List.singleton_perm_singleton.mp ((List.perm_append_right_iff _).mp cancelled)

namespace DisjunctiveSyllogism

/-! ## What formulas amount to together -/

/-- Other than a single formula, formulas amount to their disjunction. -/
theorem joint_eq_disj (several : φs.length ≠ 1) : joint φs = .disj φs := by
  rcases φs with _ | ⟨φ, _ | ⟨ψ, rest⟩⟩
  · rfl
  · exact absurd rfl several
  · rfl

/-- Formulas of the same number are told apart by what they amount to. -/
theorem joint_inj {ψs : List Formula} (count : φs.length = ψs.length) :
    joint φs = joint ψs ↔ φs = ψs := by
  refine ⟨fun same => ?_, fun same => by rw [same]⟩
  by_cases one : φs.length = 1
  · obtain ⟨φ, rfl⟩ := List.length_eq_one_iff.mp one
    obtain ⟨ψ, rfl⟩ := List.length_eq_one_iff.mp (count ▸ one)
    exact congrArg (fun φ => [φ]) same
  · rw [joint_eq_disj one, joint_eq_disj (count ▸ one)] at same
    exact (Formula.junction.inj same).2

theorem reduce_joint (φs : List Formula) :
    (joint φs).reduce = joint (φs.map Formula.reduce) := by
  by_cases one : φs.length = 1
  · obtain ⟨φ, rfl⟩ := List.length_eq_one_iff.mp one
    rfl
  · have one' : (φs.map Formula.reduce).length ≠ 1 := by rwa [List.length_map]
    rw [joint_eq_disj one, joint_eq_disj one', Formula.reduce_junction]

/-- A formula amounts to the disjuncts that it contributes. -/
theorem joint_parts (wf : φ.WellFormed) : joint (φ.parts .disj) = φ := by
  by_cases head : φ.connective = .disjunction
  · obtain ⟨φs, rfl⟩ := Formula.connective_eq_disjunction.mp head
    have two := wf.of_junction.1
    rw [Formula.parts_junction]
    exact joint_eq_disj (by omega)
  · rw [Formula.parts_eq_singleton head]
    rfl

/-- What several formulas amount to, flattened, is what their flattened disjuncts amount to. -/
theorem flatten_joint (wf : ∀ φ ∈ φs, φ.WellFormed) :
    (joint φs).flatten = joint (Formula.flattenParts .disj φs) := by
  rcases φs with _ | ⟨φ, _ | ⟨ψ, rest⟩⟩
  · rfl
  · have single : Formula.flattenParts .disj [φ] = φ.flatten.parts .disj := List.append_nil _
    rw [single, joint_parts (wf φ List.mem_cons_self).flatten]
    rfl
  · have count := Formula.length_le_flattenParts (j := .disj) fun φ mem => (wf φ mem).flatten
    simp only [List.length_cons] at count
    exact (joint_eq_disj (by omega)).symm

/-! ## Denying a disjunct as it is written -/

/-- Of the flattened disjuncts, one agrees with `φ`, and the others amount to what the formulas
around `φ` amount to, flattened and up to double negation. -/
def Detaches (front : List Formula) (φ : Formula) (back : List Formula) : Prop :=
  ∃ before d after, Formula.flattenParts .disj (front ++ φ :: back) = before ++ d :: after ∧
    d.agrees φ = true ∧ joint ((before ++ after).map Formula.reduce) =
      joint ((Formula.flattenParts .disj (front ++ back)).map Formula.reduce)

/-- What the other disjuncts amount to is accepted when the disjunct detaches. -/
theorem accepts_joint_iff (wf : (Formula.disj (front ++ φ :: back)).WellFormed)
    (pair : InEitherOrder ps (.disj (front ++ φ :: back)) (.neg φ)) :
    rule.Accepts (joint (front ++ back)) ps ↔ Detaches front φ back := by
  have each := wf.of_junction.2
  have wfs : ∀ p ∈ ps, p.WellFormed := by
    have wfφ : φ.WellFormed := each φ (by simp)
    rcases pair with rfl | rfl
    · simpa [Premise.WellFormed] using ⟨wf, Formula.WellFormed.neg wfφ⟩
    · simpa [Premise.WellFormed] using ⟨Formula.WellFormed.neg wfφ, wf⟩
  have flat : (joint (front ++ back)).flatten =
      joint (Formula.flattenParts .disj (front ++ back)) := by
    refine flatten_joint fun ψ mem => each ψ ?_
    rcases List.mem_append.mp mem with mem | mem
    · exact List.mem_append_left _ mem
    · exact List.mem_append_right _ (List.mem_cons_of_mem φ mem)
  have left_iff (χs : List Formula) :
      (joint χs).agrees (joint (front ++ back)).flatten = true ↔
        joint (χs.map Formula.reduce) =
          joint ((Formula.flattenParts .disj (front ++ back)).map Formula.reduce) := by
    rw [Formula.agrees_iff, flat, reduce_joint, reduce_joint]
  rw [accepts_iff wfs]
  constructor
  · intro h
    obtain ⟨_, _, pair', χ, resolved, agrees⟩ := h
    rcases pair.eq_or_swap pair' with ⟨rfl, rfl⟩ | ⟨rfl, rfl⟩
    · obtain ⟨before, d, after, split, denied, rfl⟩ := resolves_disj.mp resolved
      exact ⟨before, d, after, split, Formula.agrees_neg_iff.mp denied, (left_iff _).mp agrees⟩
    · -- A negation is no disjunction, so in this order there is nothing to resolve.
      obtain ⟨_, _, _, _, same, -⟩ := resolved
      cases same
  · intro h
    obtain ⟨before, d, after, split, agrees, left⟩ := h
    refine ⟨_, _, pair, joint (before ++ after), ?_, (left_iff _).mpr left⟩
    exact resolves_disj.mpr ⟨before, d, after, split, Formula.agrees_neg_iff.mpr agrees, rfl⟩

/-- A disjunct that is no disjunction stays one among the flattened disjuncts, and comes off when it
still agrees with itself. -/
theorem detaches_iff_of_ne (other : φ.connective ≠ .disjunction) :
    Detaches front φ back ↔ φ.flatten.agrees φ = true := by
  have whole : Formula.flattenParts .disj (front ++ φ :: back) =
      Formula.flattenParts .disj front ++ φ.flatten :: Formula.flattenParts .disj back := by
    have head : φ.flatten.connective ≠ .disjunction := by rwa [Formula.connective_flatten]
    rw [Formula.flattenParts_append, Formula.flattenParts, Formula.parts_eq_singleton head]
    rfl
  constructor
  · intro detaches
    obtain ⟨before, d, after, split, agrees, left⟩ := detaches
    rw [whole] at split
    rw [Formula.flattenParts_append] at left
    have count : (before ++ after).length =
        (Formula.flattenParts .disj front ++ Formula.flattenParts .disj back).length := by
      have lengths := congrArg List.length split
      simp only [List.length_append, List.length_cons] at lengths ⊢
      omega
    rw [joint_inj (by rw [List.length_map, List.length_map, count])] at left
    simp only [List.map_append] at left
    have images := congrArg (List.map Formula.reduce) split
    simp only [List.map_append, List.map_cons] at images
    -- What was taken out on both sides is the same, since what is left is.
    have same : φ.flatten.reduce = d.reduce := eq_of_append_cons_eq images left.symm
    rw [Formula.agrees_iff] at agrees ⊢
    exact same.trans agrees
  · intro agrees
    exact ⟨_, φ.flatten, _, whole, agrees, by rw [Formula.flattenParts_append]⟩

theorem flattenParts_single (other : ψ.connective ≠ .disjunction) :
    Formula.flattenParts .disj [ψ] = [ψ.flatten] := by
  have head : ψ.flatten.connective ≠ .disjunction := by rwa [Formula.connective_flatten]
  rw [Formula.flattenParts, Formula.parts_eq_singleton head]
  rfl

/-- Beside a single other disjunct, the flattened disjunction is that one put before or behind the
disjuncts that `φ` contributes. -/
theorem exists_split_of_single (single : front ++ back = [ψ])
    (other : ψ.connective ≠ .disjunction) :
    ∃ before after, Formula.flattenParts .disj (front ++ φ :: back) =
      before ++ ψ.flatten :: after ∧ before ++ after = φ.flatten.parts .disj := by
  rcases List.append_eq_singleton_iff.mp single with ⟨rfl, rfl⟩ | ⟨rfl, rfl⟩
  · refine ⟨φ.flatten.parts .disj, [], ?_, List.append_nil _⟩
    rw [List.nil_append, Formula.flattenParts, flattenParts_single other]
  · refine ⟨[], φ.flatten.parts .disj, ?_, rfl⟩
    rw [Formula.flattenParts_append, flattenParts_single other]
    simp only [Formula.flattenParts, List.append_nil, List.singleton_append, List.nil_append]

/-- A disjunct detaches from a single other one that it agrees with, flattened. -/
theorem detaches_of_single (wf : φ.WellFormed) (flat : φ.flatten.agrees φ = true)
    (single : front ++ back = [ψ]) (other : ψ.connective ≠ .disjunction)
    (agrees : ψ.flatten.agrees φ = true) : Detaches front φ back := by
  obtain ⟨before, after, split, rest⟩ := exists_split_of_single (φ := φ) single other
  refine ⟨before, ψ.flatten, after, split, agrees, ?_⟩
  rw [single, flattenParts_single other, rest, ← reduce_joint, ← reduce_joint,
    joint_parts wf.flatten]
  exact (Formula.agrees_iff.mp flat).trans (Formula.agrees_iff.mp agrees).symm

/-- A disjunction contributes several disjuncts, and it cannot come off as a whole unless there is
but one other disjunct. -/
theorem exists_single_of_detaches (wf : (Formula.disj (front ++ φ :: back)).WellFormed)
    (head : φ.connective = .disjunction) (detaches : Detaches front φ back) :
    ∃ ψ, front ++ back = [ψ] ∧ ψ.connective ≠ .disjunction := by
  obtain ⟨before, d, after, split, -, left⟩ := detaches
  obtain ⟨operands, each⟩ := wf.of_junction
  have own := (each φ (by simp)).two_le_parts_flatten (j := .disj) head
  have wfs : ∀ ψ ∈ front ++ back, ψ.WellFormed := by
    intro ψ mem
    simp only [List.mem_append, List.mem_cons] at mem each
    exact each ψ (mem.imp_right .inr)
  have count := Formula.length_le_flattenParts (j := .disj) fun ψ mem => (wfs ψ mem).flatten
  have lengths := congrArg List.length split
  simp only [Formula.flattenParts_append, Formula.flattenParts, List.length_append,
    List.length_cons] at operands count lengths
  have several : ((before ++ after).map Formula.reduce).length ≠ 1 := by
    simp only [List.length_map, List.length_append]
    omega
  have one : (Formula.flattenParts .disj (front ++ back)).length = 1 := by
    -- Otherwise two disjunctions of different lengths would be the same.
    by_contra more
    rw [joint_eq_disj several, joint_eq_disj (by rwa [List.length_map])] at left
    have equal := congrArg List.length (Formula.junction.inj left).2
    simp only [Formula.flattenParts_append, List.length_map, List.length_append] at equal
    omega
  obtain ⟨ψ, single⟩ : ∃ ψ, front ++ back = [ψ] := by
    simp only [Formula.flattenParts_append, List.length_append] at one
    apply List.length_eq_one_iff.mp
    rw [List.length_append]
    omega
  refine ⟨ψ, single, fun headψ => ?_⟩
  have wfψ : ψ.WellFormed := wfs ψ (single ▸ List.mem_singleton_self ψ)
  have others := wfψ.two_le_parts_flatten (j := .disj) headψ
  rw [single, Formula.flattenParts, Formula.flattenParts, List.append_nil] at one
  omega

/-- Beside a single other disjunct, a disjunction comes off only when the other one is taken for it,
and what is left are its own disjuncts. -/
theorem agrees_of_detaches_single (wf : φ.WellFormed) (head : φ.connective = .disjunction)
    (single : front ++ back = [ψ]) (other : ψ.connective ≠ .disjunction)
    (detaches : Detaches front φ back) :
    φ.flatten.agrees φ = true ∧ ψ.flatten.agrees φ = true := by
  obtain ⟨before, d, after, split, agrees, left⟩ := detaches
  obtain ⟨before', after', split', rest⟩ := exists_split_of_single (φ := φ) single other
  rw [split'] at split
  have several : ((before ++ after).map Formula.reduce).length ≠ 1 := by
    have own := wf.two_le_parts_flatten (j := .disj) head
    have lengths := congrArg List.length split
    rw [← rest] at own
    simp only [List.length_append, List.length_cons, List.length_map] at own lengths ⊢
    omega
  rw [single, flattenParts_single other] at left
  replace left : joint ((before ++ after).map Formula.reduce) = ψ.flatten.reduce := left
  have absent : ψ.flatten ∉ before ++ after := by
    intro mem
    have smaller : sizeOf ψ.flatten.reduce <
        sizeOf (Formula.disj ((before ++ after).map Formula.reduce)) :=
      Formula.sizeOf_lt_junction (List.mem_map_of_mem mem)
    rw [← joint_eq_disj several, left] at smaller
    exact Nat.lt_irrefl _ smaller
  rw [List.mem_append, not_or] at absent
  obtain ⟨rfl, rfl, rfl⟩ := (List.append_cons_inj_of_notMem absent.1 absent.2).mp split.symm
  rw [rest, ← reduce_joint, joint_parts wf.flatten] at left
  exact ⟨Formula.agrees_iff.mpr (left.trans (Formula.agrees_iff.mp agrees)), agrees⟩

/-- A disjunct detaches when it is flat, and is no disjunction or agrees with a single other one. -/
theorem detaches_iff (wf : (Formula.disj (front ++ φ :: back)).WellFormed) :
    Detaches front φ back ↔
      φ.IsFlat ∧ (φ.connective ≠ .disjunction ∨
        ∃ ψ, front ++ back = [ψ] ∧ ψ.connective ≠ .disjunction ∧ ψ.flatten.agrees φ = true) := by
  have wfφ : φ.WellFormed := wf.of_junction.2 φ (by simp)
  rw [← Formula.agrees_flatten_iff wfφ]
  constructor
  · intro detaches
    by_cases head : φ.connective = .disjunction
    · obtain ⟨ψ, single, other⟩ := exists_single_of_detaches wf head detaches
      obtain ⟨flat, agrees⟩ := agrees_of_detaches_single wfφ head single other detaches
      exact ⟨flat, .inr ⟨ψ, single, other, agrees⟩⟩
    · exact ⟨(detaches_iff_of_ne head).mp detaches, .inl head⟩
  · intro h
    obtain ⟨flat, head | ⟨ψ, single, other, agrees⟩⟩ := h
    · exact (detaches_iff_of_ne head).mpr flat
    · exact detaches_of_single wfφ flat single other agrees

end DisjunctiveSyllogism

/-- From a disjunction and the negation of one of its disjuncts, in either order, the verifier
accepts what the other disjuncts amount to exactly when the denied disjunct is flat, and either is
no disjunction or agrees with the only other disjunct, no disjunction, once the latter is
flattened. -/
theorem Verifier.accepts_other_disjuncts_iff (v : Verifier)
    (wf : (Formula.disj (front ++ φ :: back)).WellFormed)
    (pair : InEitherOrder ps (.disj (front ++ φ :: back)) (.neg φ)) :
    v.Accepts .disjunctiveSyllogism (DisjunctiveSyllogism.joint (front ++ back)) ps ↔
      φ.IsFlat ∧ (φ.connective ≠ .disjunction ∨
        ∃ ψ, front ++ back = [ψ] ∧ ψ.connective ≠ .disjunction ∧ ψ.flatten.agrees φ = true) := by
  rw [accepts_iff, ← DisjunctiveSyllogism.detaches_iff wf]
  exact DisjunctiveSyllogism.accepts_joint_iff wf pair

/-- From `¬(P ∧ Q)` and `P ∨ (P ∧ Q) ∨ (R ∨ S)` the verifier accepts `P ∨ (R ∨ S)`. -/
theorem Verifier.accepts_other_disjuncts_of_flat :
    Accepts {} .disjunctiveSyllogism (.disj [.atom "P", .disj [.atom "R", .atom "S"]])
      [.plain (.neg (.conj [.atom "P", .atom "Q"])),
        .plain (.disj [.atom "P", .conj [.atom "P", .atom "Q"],
          .disj [.atom "R", .atom "S"]])] := by
  have wf : (Formula.disj ([.atom "P"] ++ .conj [.atom "P", .atom "Q"] ::
      [.disj [.atom "R", .atom "S"]])).WellFormed := by decide
  exact (accepts_other_disjuncts_iff {} wf (.inr rfl)).mpr ⟨by decide, .inl (by decide)⟩

/-- The verifier does not accept `S` from `((P ∧ Q) ∧ R) ∨ S` and `¬((P ∧ Q) ∧ R)`, nor `R` from
`(P ∨ Q) ∨ R` and `¬(P ∨ Q)`: one of two disjuncts may be denied and the other not be accepted, even
if the former is no disjunction, and even if it is flat. -/
theorem Verifier.rejects_other_disjunct :
    (¬∀ φ ψ : Formula, φ.WellFormed → ψ.WellFormed → φ.connective ≠ .disjunction →
      Accepts {} .disjunctiveSyllogism ψ [.plain (.disj [φ, ψ]), .plain (.neg φ)]) ∧
    ¬∀ φ ψ : Formula, φ.WellFormed → ψ.WellFormed → φ.IsFlat →
      Accepts {} .disjunctiveSyllogism ψ [.plain (.disj [φ, ψ]), .plain (.neg φ)] := by
  have rejected (φ ψ : Formula)
      (rejects : Rejects {} .disjunctiveSyllogism ψ [.plain (.disj [φ, ψ]), .plain (.neg φ)]
        (.notNegatedDisjunct (.neg φ) (.disj [φ, ψ]))) :
      ¬Accepts {} .disjunctiveSyllogism ψ [.plain (.disj [φ, ψ]), .plain (.neg φ)] :=
    fun accepts => nomatch accepts.symm.trans rejects
  constructor
  · intro accepts
    exact rejected (.conj [.conj [.atom "P", .atom "Q"], .atom "R"]) (.atom "S") rfl
      (accepts _ _ (by decide) (by decide) (by decide))
  · intro accepts
    exact rejected (.disj [.atom "P", .atom "Q"]) (.atom "R") rfl
      (accepts _ _ (by decide) (by decide) (by decide))

/-! ## Cases as they are written -/

namespace CaseAnalysis

/-- With one case for each disjunct, a proof by cases is accepted when all disjuncts are flat. -/
theorem accepts_map_iff {ds : List Formula} (none : ∀ φ ∈ φs, φ.connective ≠ .disjunction)
    (perm : ds.Perm φs) :
    rule.Accepts c (.plain (.disj φs) :: ds.map (caseOf c)) ↔ ∀ φ ∈ φs, φ.IsFlat := by
  have operands : (Formula.disj φs).flatten.operands = φs.map Formula.flatten :=
    congrArg Formula.operands (Formula.flatten_junction_eq_map none)
  rw [accepts_iff]
  constructor
  · intro h φ mem
    obtain ⟨ψs, es, same, -, covered⟩ := h
    obtain ⟨first, rest⟩ := List.cons.inj same
    obtain rfl : φs = ψs := (Formula.junction.inj (Premise.plain.inj first)).2
    obtain rfl : ds = es := List.map_injective_iff.mpr (caseOf_injective c) rest
    -- The disjunct is assumed as it is written, so it is one of the flattened disjuncts.
    have found : φ ∈ φs.map Formula.flatten := operands ▸ (covered φ).mp (perm.mem_iff.mpr mem)
    obtain ⟨ψ, -, rfl⟩ := List.mem_map.mp found
    exact Formula.isFlat_flatten ψ
  · intro flat
    have each : ∀ φ ∈ φs, φ.flatten = id φ := fun φ mem => (flat φ mem).flatten_eq
    have unchanged : (Formula.disj φs).flatten.operands = φs := by
      rw [operands, List.map_congr_left each, List.map_id]
    refine ⟨φs, ds, rfl, ?_, fun d => ?_⟩
    · rw [unchanged, perm.length_eq]
    · rw [unchanged, perm.mem_iff]

end CaseAnalysis

/-- From a disjunction none of whose disjuncts is a disjunction, and one case for each of them in
any order, the verifier accepts the common conclusion exactly when every disjunct is flat. -/
theorem Verifier.accepts_written_cases_iff (v : Verifier) (c : Formula) {ds : List Formula}
    (none : ∀ φ ∈ φs, φ.connective ≠ .disjunction) (perm : ds.Perm φs) :
    v.Accepts .disjunctionElimination c
        (.plain (.disj φs) :: ds.map (CaseAnalysis.caseOf c)) ↔
      ∀ φ ∈ φs, φ.IsFlat := by
  rw [accepts_iff]
  exact CaseAnalysis.accepts_map_iff none perm

/-- From `(P ∧ Q) ∨ ¬R ∨ (R → (P ∨ Q))` and its cases, the last one first, the verifier accepts what
all of them conclude. -/
theorem Verifier.accepts_written_cases_of_flat :
    Accepts {} .disjunctionElimination (.atom "T")
      [.plain (.disj [.conj [.atom "P", .atom "Q"], .neg (.atom "R"),
          .imp (.atom "R") (.disj [.atom "P", .atom "Q"])]),
        .subproof [.imp (.atom "R") (.disj [.atom "P", .atom "Q"])] (.atom "T"),
        .subproof [.conj [.atom "P", .atom "Q"]] (.atom "T"),
        .subproof [.neg (.atom "R")] (.atom "T")] := by
  have none : ∀ φ ∈ [Formula.conj [.atom "P", .atom "Q"], .neg (.atom "R"),
      .imp (.atom "R") (.disj [.atom "P", .atom "Q"])], φ.connective ≠ .disjunction := by decide
  have perm : [Formula.imp (.atom "R") (.disj [.atom "P", .atom "Q"]),
      .conj [.atom "P", .atom "Q"], .neg (.atom "R")].Perm [.conj [.atom "P", .atom "Q"],
        .neg (.atom "R"), .imp (.atom "R") (.disj [.atom "P", .atom "Q"])] := by decide
  exact (accepts_written_cases_iff {} (.atom "T") none perm).mpr (by decide)

/-- From `((P ∧ Q) ∧ R) ∨ S` and a case for each of its two disjuncts the verifier does not accept
what both conclude. -/
theorem Verifier.rejects_written_cases :
    ¬∀ (c : Formula) (φs ds : List Formula), c.WellFormed → (Formula.disj φs).WellFormed →
      (∀ φ ∈ φs, φ.connective ≠ .disjunction) → ds.Perm φs →
      Accepts {} .disjunctionElimination c
        (.plain (.disj φs) :: ds.map (CaseAnalysis.caseOf c)) := by
  intro accepts
  have accepted := accepts (.atom "T")
    [.conj [.conj [.atom "P", .atom "Q"], .atom "R"], .atom "S"]
    [.conj [.conj [.atom "P", .atom "Q"], .atom "R"], .atom "S"]
    (by decide) (by decide) (by decide) (.refl _)
  have rejected : Rejects {} .disjunctionElimination (.atom "T")
      [.plain (.disj [.conj [.conj [.atom "P", .atom "Q"], .atom "R"], .atom "S"]),
        .subproof [.conj [.conj [.atom "P", .atom "Q"], .atom "R"]] (.atom "T"),
        .subproof [.atom "S"] (.atom "T")]
      (.assumptionNotDisjunct (.conj [.conj [.atom "P", .atom "Q"], .atom "R"])
        (.disj [.conj [.conj [.atom "P", .atom "Q"], .atom "R"], .atom "S"])) := rfl
  cases accepted.symm.trans rejected

end NaturalDeduction
