import NaturalDeduction.Proofs.Formula.WellFormed
import NaturalDeduction.Proofs.Rule.EitherOrder
import NaturalDeduction.Rule.Disjunction

/-!
# What the rules for disjunctions accept and propose

All three look at the flattened disjunction. The disjunctive syllogism puts what is left of it
together anew, which a well-formed disjunction always allows; only that needs well-formed premises.
-/

namespace NaturalDeduction

variable {c φ ψ χ : Formula} {ps : List Premise}

namespace Addition

theorem diagnose_disj (φs : List Formula) (φ : Formula) :
    diagnose (.disj φs) φ =
      if φ ∈ φs ∨ φ ∈ (Formula.disj φs).flatten.operands then none
      else some (.notDisjunctOfConclusion φ (.disj φs)) := rfl

/-- The check looks for the premise among the disjuncts, as they stand and flattened. -/
theorem diagnose_decides (c φ : Formula) :
    Decides (.ok (diagnose c φ)) (∃ φs, c = .disj φs ∧ (φ ∈ φs ∨ φ ∈ c.flatten.operands)) := by
  by_cases head : ∃ φs, c = .disj φs
  · obtain ⟨φs, rfl⟩ := head
    rw [diagnose_disj]
    by_cases found : φ ∈ φs ∨ φ ∈ (Formula.disj φs).flatten.operands
    · rw [if_pos found]
      exact .accept ⟨φs, rfl, found⟩
    · rw [if_neg found]
      refine .reject trivial fun h => ?_
      obtain ⟨_, same, mem⟩ := h
      cases same
      exact found mem
  · have rejected : diagnose c φ = some (.wrongForm Shape.disjunction.text) := by
      unfold diagnose
      split
      · exact absurd ⟨_, rfl⟩ head
      · rfl
    rw [rejected]
    exact .reject trivial fun h => head ⟨h.choose, h.choose_spec.1⟩

theorem decidesOne :
    rule.DecidesOne fun c φ => ∃ φs, c = .disj φs ∧ (φ ∈ φs ∨ φ ∈ c.flatten.operands) :=
  ⟨⟨fun _ => rfl, fun _ => rfl⟩, diagnose_decides⟩

/-- The conclusion is a disjunction, and the premise is a disjunct of it, as it stands or
flattened. -/
theorem accepts_iff :
    rule.Accepts c ps ↔ ∃ φ φs, ps = [.plain φ] ∧ c = .disj φs ∧
      (φ ∈ φs ∨ φ ∈ c.flatten.operands) := by
  rw [decidesOne.accepts_iff]
  simp only [exists_and_left]

theorem answers (shape : rule.shapeDiagnostic? ⟨c, ps⟩ = none) : Answers (rule.check ⟨c, ps⟩) :=
  decidesOne.answers shape

end Addition

namespace DisjunctiveSyllogism

/-- What several formulas amount to when they are put together: the only one, or their
disjunction. -/
def joint : List Formula → Formula
  | [φ] => φ
  | φs => .disj φs

/-- One formula or more can be put together. -/
theorem remainder_eq_ok_iff {φs : List Formula} : remainder φs = .ok χ ↔ φs ≠ [] ∧ joint φs = χ := by
  rcases φs with _ | ⟨φ, _ | ⟨ψ, rest⟩⟩
  · refine iff_of_false (fun h => ?_) fun h => h.1 rfl
    cases h
  · simp only [remainder, joint, Except.ok.injEq, ne_eq, reduceCtorEq, not_false_eq_true, true_and]
  · have two : 2 ≤ (φ :: ψ :: rest).length := Nat.le_add_left 2 rest.length
    have joined : remainder (φ :: ψ :: rest) = .ok (.disj (φ :: ψ :: rest)) := by
      show Misuse.join .disj (φ :: ψ :: rest) = _
      rw [Misuse.join, Formula.build_junction .disj two]
      rfl
    simp only [joined, joint, Except.ok.injEq, ne_eq, reduceCtorEq, not_false_eq_true, true_and]

/-- The negation denies a disjunct of the flattened disjunction, and the third formula is what the
others amount to. -/
def Resolves (disjunction negation χ : Formula) : Prop :=
  ∃ φs front d back, disjunction = .disj φs ∧ disjunction.flatten.operands = front ++ d :: back ∧
    (Formula.neg d).agrees negation = true ∧ joint (front ++ back) = χ

/-- Of a disjunction, to resolve is to take out the disjunct that is denied. -/
theorem resolves_disj {φs : List Formula} :
    Resolves (.disj φs) ψ χ ↔ ∃ front d back,
      (Formula.disj φs).flatten.operands = front ++ d :: back ∧
        (Formula.neg d).agrees ψ = true ∧ joint (front ++ back) = χ := by
  constructor
  · intro h
    obtain ⟨_, front, d, back, -, split, denied, left⟩ := h
    exact ⟨front, d, back, split, denied, left⟩
  · intro h
    obtain ⟨front, d, back, split, denied, left⟩ := h
    exact ⟨φs, front, d, back, rfl, split, denied, left⟩

/-- When the check is not at a loss, it has found what resolution yields. -/
theorem mem_remainders_iff {φs found : List Formula} (h : remainders (.disj φs) ψ = .ok found) :
    χ ∈ found ↔ Resolves (.disj φs) ψ χ := by
  obtain ⟨outward, inward⟩ := mem_of_mapM_eq_ok h
  rw [resolves_disj]
  constructor
  · intro mem
    obtain ⟨⟨d, rest⟩, picked, came⟩ := inward χ mem
    obtain ⟨inside, denied⟩ := List.mem_filter.mp picked
    obtain ⟨front, back, split, rfl⟩ := mem_picks.mp inside
    exact ⟨front, d, back, split, denied, (remainder_eq_ok_iff.mp came).2⟩
  · intro resolved
    obtain ⟨front, d, back, split, denied, left⟩ := resolved
    have picked : (d, front ++ back) ∈ picks (Formula.disj φs).flatten.operands :=
      mem_picks.mpr ⟨front, back, split, rfl⟩
    obtain ⟨ω, mem, came⟩ := outward _ (List.mem_filter.mpr ⟨picked, denied⟩)
    rw [← left, (remainder_eq_ok_iff.mp came).2]
    exact mem

/-- A well-formed disjunction has two disjuncts or more, so something is left without one. -/
theorem exists_remainders {φs : List Formula} (wf : (Formula.disj φs).WellFormed) (ψ : Formula) :
    ∃ found, remainders (.disj φs) ψ = .ok found := by
  refine exists_mapM_eq_ok fun picked mem => ?_
  obtain ⟨d, rest⟩ := picked
  obtain ⟨front, back, split, rfl⟩ := mem_picks.mp (List.mem_filter.mp mem).1
  have two : 2 ≤ (Formula.disj φs).flatten.operands.length := wf.flatten.of_junction.1
  have left : front ++ back ≠ [] := by
    intro none
    rw [List.append_eq_nil_iff] at none
    rw [split, none.1, none.2] at two
    exact Nat.not_succ_le_self 1 two
  exact ⟨_, remainder_eq_ok_iff.mpr ⟨left, rfl⟩⟩

theorem outcome_disj (c : Formula) (φs : List Formula) (ψ : Formula) :
    outcome c (.disj φs) ψ = (remainders (.disj φs) ψ >>= fun found =>
      if found.any (·.agrees c.flatten) then .ok .valid
      else if found.isEmpty then .ok (.rejected (.notNegatedDisjunct ψ (.disj φs)))
      else .ok (.rejected (.notRemainder c found))) := rfl

/-- The check finds the conclusion when something that resolution yields agrees with it. -/
theorem any_agrees_iff {φs found : List Formula} (h : remainders (.disj φs) ψ = .ok found) :
    found.any (·.agrees c) = true ↔ ∃ χ, Resolves (.disj φs) ψ χ ∧ χ.agrees c = true := by
  simp only [List.any_eq_true, mem_remainders_iff h]

/-- A formula that is no disjunction is in the wrong place. -/
theorem outcome_eq_wrongOrder (other : ¬∃ φs, φ = .disj φs) :
    outcome c φ ψ = .ok .wrongOrder := by
  unfold outcome
  split
  · exact absurd ⟨_, rfl⟩ other
  · rfl

/-- What the check accepts in one order is resolved in that order. -/
theorem resolves_of_outcome (h : outcome c φ ψ = .ok .valid) :
    ∃ χ, Resolves φ ψ χ ∧ χ.agrees c.flatten = true := by
  by_cases head : ∃ φs, φ = .disj φs
  · obtain ⟨φs, rfl⟩ := head
    rw [outcome_disj] at h
    obtain ⟨found, left, h⟩ := bind_eq_ok.mp h
    by_cases reached : found.any (·.agrees c.flatten) = true
    · exact (any_agrees_iff left).mp reached
    · rw [if_neg reached] at h
      split at h <;> cases h
  · rw [outcome_eq_wrongOrder head] at h
    cases h

/-- On a well-formed premise the check accepts exactly what resolution yields, flattened and up to
double negation. -/
theorem outcome_decides (wf : φ.WellFormed) (c ψ : Formula) :
    Outcome.Decides (outcome c φ ψ) (∃ χ, Resolves φ ψ χ ∧ χ.agrees c.flatten = true) := by
  by_cases head : ∃ φs, φ = .disj φs
  · obtain ⟨φs, rfl⟩ := head
    obtain ⟨found, left⟩ := exists_remainders wf ψ
    rw [outcome_disj, left, ok_bind, ← any_agrees_iff left]
    by_cases reached : found.any (·.agrees c.flatten) = true
    · rw [if_pos reached]
      exact .valid reached
    · rw [if_neg reached]
      split
      · exact .reject trivial reached
      · exact .reject trivial reached
  · rw [outcome_eq_wrongOrder head]
    refine .wrongOrder fun h => ?_
    obtain ⟨_, ⟨φs, _, _, _, same, -⟩, -⟩ := h
    exact head ⟨φs, same⟩

theorem triesBothOrders : rule.TriesBothOrders outcome .disjunction :=
  ⟨⟨fun _ => rfl, fun _ => rfl⟩, rfl⟩

/-- What is accepted agrees, flattened, with something that resolution yields. -/
theorem resolves_of_accepts (h : rule.Accepts c ps) :
    ∃ φ ψ, InEitherOrder ps φ ψ ∧ ∃ χ, Resolves φ ψ χ ∧ χ.agrees c.flatten = true := by
  obtain ⟨φ, ψ, pair, valid⟩ := triesBothOrders.exists_valid h
  exact ⟨φ, ψ, pair, resolves_of_outcome valid⟩

/-- The premises are a disjunction and the negation of a disjunct of it, and the conclusion agrees
with what is left. -/
theorem accepts_iff (wf : ∀ p ∈ ps, p.WellFormed) :
    rule.Accepts c ps ↔
      ∃ φ ψ, InEitherOrder ps φ ψ ∧ ∃ χ, Resolves φ ψ χ ∧ χ.agrees c.flatten = true := by
  refine ⟨resolves_of_accepts, fun h => ?_⟩
  obtain ⟨φ, ψ, pair, resolved⟩ := h
  obtain ⟨wfφ, wfψ⟩ := pair.wellFormed wf
  exact triesBothOrders.accepts_of_valid pair ((outcome_decides wfφ c ψ).accepts.mpr resolved)
    (outcome_decides wfψ c φ).answers

theorem answers (wf : ∀ p ∈ ps, p.WellFormed) (shape : rule.shapeDiagnostic? ⟨c, ps⟩ = none) :
    Answers (rule.check ⟨c, ps⟩) :=
  triesBothOrders.answers (fun _ ψ pair => (outcome_decides (pair.wellFormed wf).1 c ψ).answers)
    shape

/-- The advisor finds what resolution yields in one order. -/
theorem resolve_spec (wf : φ.WellFormed) (ψ : Formula) :
    ∃ found, resolve φ ψ = .ok found ∧ ∀ χ, χ ∈ found ↔ Resolves φ ψ χ := by
  by_cases head : ∃ φs, φ = .disj φs
  · obtain ⟨φs, rfl⟩ := head
    obtain ⟨found, left⟩ := exists_remainders wf ψ
    exact ⟨found, left, fun χ => mem_remainders_iff left⟩
  · have silent : resolve φ ψ = .ok [] := by
      unfold resolve
      split
      · exact absurd ⟨_, rfl⟩ head
      · rfl
    refine ⟨[], silent, fun χ => iff_of_false nofun fun h => ?_⟩
    obtain ⟨φs, _, _, _, same, -⟩ := h
    exact head ⟨φs, same⟩

/-- The advisor finds what resolution yields in both orders. -/
theorem advise_spec (wfφ : φ.WellFormed) (wfψ : ψ.WellFormed) :
    ∃ found, advise φ ψ = .ok (Advisor.unlessEmpty found) ∧
      ∀ χ, χ ∈ found ↔ Resolves φ ψ χ ∨ Resolves ψ φ χ := by
  obtain ⟨left, first, specφ⟩ := resolve_spec wfφ ψ
  obtain ⟨right, second, specψ⟩ := resolve_spec wfψ φ
  refine ⟨left ++ right, ?_, fun χ => ?_⟩
  · rw [advise, first, ok_bind, second, ok_bind]
  · rw [List.mem_append, specφ, specψ]

/-- The advisor proposes what resolution yields in either order. -/
theorem proposes_iff (wf : ∀ p ∈ ps, p.WellFormed) :
    rule.Proposes ps χ ↔ ∃ φ ψ, InEitherOrder ps φ ψ ∧ Resolves φ ψ χ := by
  constructor
  · intro h
    obtain ⟨φs, proposed, mem⟩ := h
    obtain ⟨φ, ψ, rfl, proposed⟩ := Advisor.ofTwo_eq_some_iff.mp proposed
    obtain ⟨wfφ, wfψ⟩ := InEitherOrder.wellFormed (.inl rfl) wf
    obtain ⟨found, said, spec⟩ := advise_spec wfφ wfψ
    have found_eq := Advisor.unlessEmpty_eq_some_iff.mp (Except.ok.inj (said.symm.trans proposed))
    rcases (spec χ).mp (found_eq.1 ▸ mem) with resolved | resolved
    · exact ⟨φ, ψ, .inl rfl, resolved⟩
    · exact ⟨ψ, φ, .inr rfl, resolved⟩
  · intro h
    obtain ⟨φ, ψ, pair, resolved⟩ := h
    obtain ⟨wfφ, wfψ⟩ := pair.wellFormed wf
    have proposed {α β : Formula} (wfα : α.WellFormed) (wfβ : β.WellFormed)
        (either : Resolves α β χ ∨ Resolves β α χ) :
        rule.Proposes [.plain α, .plain β] χ := by
      obtain ⟨found, said, spec⟩ := advise_spec wfα wfβ
      have mem : χ ∈ found := (spec χ).mpr either
      have some : Advisor.unlessEmpty found = some found :=
        Advisor.unlessEmpty_eq_some_iff.mpr ⟨rfl, List.ne_nil_of_mem mem⟩
      exact ⟨found, said.trans (congrArg _ some), mem⟩
    rcases pair with rfl | rfl
    · exact proposed wfφ wfψ (.inl resolved)
    · exact proposed wfψ wfφ (.inr resolved)

/-- What is left of a well-formed disjunction is well formed. -/
theorem Resolves.wellFormed (h : Resolves φ ψ χ) (wf : φ.WellFormed) : χ.WellFormed := by
  obtain ⟨φs, front, d, back, rfl, split, -, rfl⟩ := h
  obtain ⟨two, each⟩ : 2 ≤ (Formula.disj φs).flatten.operands.length ∧
      ∀ φ ∈ (Formula.disj φs).flatten.operands, φ.WellFormed := wf.flatten.of_junction
  rw [split] at two each
  have rest : ∀ φ ∈ front ++ back, φ.WellFormed := by
    intro φ mem
    rcases List.mem_append.mp mem with before | after
    · exact each φ (List.mem_append_left _ before)
    · exact each φ (List.mem_append_right _ (List.mem_cons_of_mem d after))
  have some : 1 ≤ (front ++ back).length := by
    simp only [List.length_append, List.length_cons] at two ⊢
    omega
  generalize front ++ back = left at rest some
  rcases left with _ | ⟨φ, _ | ⟨ψ, left⟩⟩
  · cases some
  · exact rest φ List.mem_cons_self
  · exact .junction (Nat.le_add_left 2 left.length) rest

theorem advises (wf : ∀ p ∈ ps, p.WellFormed) : Advises (Advisor.ofTwo advise ps) := by
  refine Advisor.advises_ofTwo fun φ ψ pair => ?_
  obtain ⟨wfφ, wfψ⟩ := InEitherOrder.wellFormed (.inl pair) wf
  obtain ⟨found, said, spec⟩ := advise_spec wfφ wfψ
  refine ⟨_, said, fun φs proposed χ mem => ?_⟩
  have found_eq := (Advisor.unlessEmpty_eq_some_iff.mp proposed).1
  rcases (spec χ).mp (found_eq ▸ mem) with resolved | resolved
  · exact resolved.wellFormed wfφ
  · exact resolved.wellFormed wfψ

end DisjunctiveSyllogism

namespace CaseAnalysis

/-- A case of a proof by cases: a subproof of the conclusion from one disjunct. -/
def caseOf (c d : Formula) : Premise := .subproof [d] c

theorem misfit?_single (c δ d ψ : Formula) :
    misfit? c δ (.subproof [d] ψ) = .ok (
      if d ∉ δ.flatten.operands then some (.assumptionNotDisjunct d δ)
      else if ψ ≠ c then some (.caseConclusion (.subproof [d] ψ) c)
      else none) := rfl

/-- A subproof is accepted as a case when it shows the conclusion from a disjunct. -/
theorem misfit?_decides (c δ : Formula) {p : Premise} (subproof : p.isSubproof = true) :
    Decides (misfit? c δ p) (∃ d ∈ δ.flatten.operands, p = caseOf c d) := by
  cases p with
  | plain φ => cases subproof
  | subproof assumptions ψ =>
    by_cases one : assumptions.length = 1
    · obtain ⟨d, rfl⟩ := List.length_eq_one_iff.mp one
      rw [misfit?_single]
      refine .congr (.guard trivial fun _ => .guard trivial fun _ => .accept trivial) ?_
      simp only [ne_eq, not_not, and_true, caseOf, Premise.subproof.injEq, List.cons.injEq]
      constructor
      · intro h
        exact ⟨d, h.1, rfl, h.2⟩
      · intro h
        obtain ⟨_, mem, rfl, shown⟩ := h
        exact ⟨mem, shown⟩
    · rw [misfit?, Misuse.assumptions_subproof, ok_bind, if_pos one]
      refine .reject trivial fun h => ?_
      obtain ⟨_, -, same⟩ := h
      cases same
      exact one rfl

/-- Premises each of which is a case are the cases of some formulas. -/
theorem exists_map_caseOf {c : Formula} {ops : List Formula} {cases : List Premise}
    (each : ∀ p ∈ cases, ∃ d ∈ ops, p = caseOf c d) :
    ∃ ds : List Formula, cases = ds.map (caseOf c) ∧ ds ⊆ ops := by
  induction cases with
  | nil => exact ⟨[], rfl, List.nil_subset ops⟩
  | cons p ps ih =>
    obtain ⟨d, mem, rfl⟩ := each p List.mem_cons_self
    obtain ⟨ds, rfl, within⟩ := ih fun q inside => each q (List.mem_cons_of_mem _ inside)
    exact ⟨d :: ds, rfl, List.cons_subset.mpr ⟨mem, within⟩⟩

/-- The disjuncts that cases begin with can be read off them. -/
theorem mapM_firstAssumption (c : Formula) (ds : List Formula) :
    (ds.map (caseOf c)).mapM Misuse.firstAssumption = .ok ds := by
  induction ds with
  | nil => rfl
  | cons d ds ih =>
    rw [List.map_cons, List.mapM_cons, caseOf, Misuse.firstAssumption_subproof, ok_bind, ih]
    rfl

/-- Cases of one conclusion are told apart by their disjuncts. -/
theorem caseOf_injective (c : Formula) : Function.Injective (caseOf c) := by
  intro d e same
  cases same
  rfl

theorem diagnose_disj (c : Formula) (φs : List Formula) (cases : List Premise) :
    diagnose c (.disj φs) cases =
      (cases.findSomeM? (misfit? c (.disj φs)) >>= fun
        | some why => .ok (some why)
        | none => cases.mapM Misuse.firstAssumption >>= fun assumed =>
          .ok (((Formula.disj φs).flatten.operands.find? (· ∉ assumed)).map .uncoveredCase)) := rfl

/-- On subproofs, the check wants the assumptions of the cases to be exactly the disjuncts. -/
theorem diagnose_decides (c δ : Formula) {cases : List Premise}
    (subproofs : ∀ p ∈ cases, p.isSubproof = true) :
    Decides (diagnose c δ cases) (∃ φs, ∃ ds : List Formula, δ = .disj φs ∧
      cases = ds.map (caseOf c) ∧ ∀ d, d ∈ ds ↔ d ∈ δ.flatten.operands) := by
  by_cases head : δ.connective = .disjunction
  · obtain ⟨φs, rfl⟩ := Formula.connective_eq_disjunction.mp head
    have fits := decides_findSomeM? cases fun p mem =>
      misfit?_decides c (.disj φs) (subproofs p mem)
    rw [diagnose_disj]
    obtain ⟨answer, said, -⟩ := fits.answers
    rw [said] at fits ⊢
    cases answer with
    | some why =>
      refine .reject fits.isCause fun h => ?_
      obtain ⟨_, ds, -, rfl, mem⟩ := h
      refine nomatch fits.accepts.mpr fun p inside => ?_
      obtain ⟨d, assumed, rfl⟩ := List.mem_map.mp inside
      exact ⟨d, (mem d).mp assumed, rfl⟩
    | none =>
      obtain ⟨ds, rfl, within⟩ := exists_map_caseOf (fits.accepts.mp rfl)
      rw [ok_bind]
      simp only [mapM_firstAssumption, ok_bind]
      refine (decides_find? (fun _ => by trivial) _).congr ⟨?_, ?_⟩
      · intro covered
        refine ⟨φs, ds, rfl, rfl, fun d => ⟨fun mem => within mem, fun mem => ?_⟩⟩
        simpa using covered d mem
      · intro h d mem
        obtain ⟨_, es, -, same, covered⟩ := h
        rw [List.map_injective_iff.mpr (caseOf_injective c) same]
        simpa using (covered d).mpr mem
  · rw [diagnose, if_pos head]
    refine .reject trivial fun h => ?_
    obtain ⟨φs, _, rfl, -⟩ := h
    exact head rfl

/-- The rule is for a plain premise and subproofs after it, as many as it counts cases. -/
theorem shapeDiagnostic?_eq_none_iff :
    rule.shapeDiagnostic? ⟨c, ps⟩ = none ↔ ∃ δ cases, ps = .plain δ :: cases ∧
      cases.length = caseCount ⟨c, ps⟩ ∧ ∀ p ∈ cases, p.isSubproof = true := by
  rw [Rule.shapeDiagnostic?_eq_none_iff]
  show ps.length = 1 + caseCount ⟨c, ps⟩ ∧
      (∀ p ∈ ps.take (1 + caseCount ⟨c, ps⟩ - caseCount ⟨c, ps⟩), p.isSubproof = false) ∧
      (∀ p ∈ ps.drop (1 + caseCount ⟨c, ps⟩ - caseCount ⟨c, ps⟩), p.isSubproof = true) ↔ _
  rw [Nat.add_sub_cancel]
  constructor
  · intro h
    obtain ⟨count, plain, subproofs⟩ := h
    cases ps with
    | nil => exact absurd count (by rw [Nat.add_comm]; exact nofun)
    | cons p rest =>
      obtain ⟨δ, rfl⟩ : ∃ δ, p = .plain δ :=
        ⟨p.formula, Premise.isSubproof_eq_false.mp (plain p List.mem_cons_self)⟩
      refine ⟨δ, rest, rfl, ?_, subproofs⟩
      rw [List.length_cons, Nat.add_comm] at count
      exact Nat.add_left_cancel count
  · intro h
    obtain ⟨δ, cases, rfl, count, subproofs⟩ := h
    refine ⟨?_, ?_, subproofs⟩
    · rw [List.length_cons, count, Nat.add_comm]
    · intro p mem
      rw [List.take_one, List.head?_cons] at mem
      exact List.mem_singleton.mp mem ▸ rfl

/-- The first premise is a disjunction, and the others are one case for each disjunct of it, as many
as there are. -/
theorem accepts_iff :
    rule.Accepts c ps ↔ ∃ φs ds : List Formula, ps = .plain (.disj φs) :: ds.map (caseOf c) ∧
      ds.length = (Formula.disj φs).flatten.operands.length ∧
      ∀ d, d ∈ ds ↔ d ∈ (Formula.disj φs).flatten.operands := by
  rw [Rule.accepts_iff, shapeDiagnostic?_eq_none_iff]
  constructor
  · intro h
    obtain ⟨⟨δ, cases, rfl, count, subproofs⟩, accepted⟩ := h
    obtain ⟨φs, ds, rfl, rfl, mem⟩ := (diagnose_decides c δ subproofs).accepts.mp accepted
    refine ⟨φs, ds, rfl, ?_, mem⟩
    rw [List.length_map] at count
    exact count
  · intro h
    obtain ⟨φs, ds, rfl, count, mem⟩ := h
    have subproofs : ∀ p ∈ ds.map (caseOf c), p.isSubproof = true := by
      intro p inside
      obtain ⟨d, -, rfl⟩ := List.mem_map.mp inside
      rfl
    refine ⟨⟨.disj φs, ds.map (caseOf c), rfl, ?_, subproofs⟩, ?_⟩
    · rw [List.length_map]
      exact count
    · exact (diagnose_decides c (.disj φs) subproofs).accepts.mpr ⟨φs, ds, rfl, rfl, mem⟩

theorem answers (shape : rule.shapeDiagnostic? ⟨c, ps⟩ = none) : Answers (rule.check ⟨c, ps⟩) := by
  obtain ⟨δ, cases, rfl, -, subproofs⟩ := shapeDiagnostic?_eq_none_iff.mp shape
  exact (diagnose_decides c δ subproofs).answers

theorem advise_cases (φs : List Formula) (first second : Premise) (rest : List Premise) :
    advise (.plain (.disj φs) :: first :: second :: rest) =
      .ok (if (first :: second :: rest).all fun p => p.isSubproof && p.formula = first.formula then
          some [first.formula] else none) := rfl

/-- The advisor proposes what at least two subproofs after a disjunction all conclude. -/
theorem proposes_iff :
    rule.Proposes ps χ ↔ ∃ φs cases, ps = .plain (.disj φs) :: cases ∧ 2 ≤ cases.length ∧
      ∀ p ∈ cases, p.isSubproof = true ∧ p.formula = χ := by
  constructor
  · intro h
    obtain ⟨proposals, proposed, mem⟩ := h
    have said : advise ps = .ok (some proposals) := proposed
    unfold advise at said
    split at said
    next φs first second rest =>
      dsimp only at said
      split at said
      next all =>
        cases said
        rw [List.mem_singleton.mp mem]
        refine ⟨φs, _, rfl, Nat.le_add_left 2 rest.length, fun p inside => ?_⟩
        simpa using List.all_eq_true.mp all p inside
      next => cases said
    next => cases said
  · intro h
    obtain ⟨φs, cases, rfl, two, each⟩ := h
    rcases cases with _ | ⟨first, _ | ⟨second, rest⟩⟩
    · cases two
    · cases Nat.le_of_succ_le_succ two
    · have shown : first.formula = χ := (each first List.mem_cons_self).2
      have all : ((first :: second :: rest).all fun p =>
          p.isSubproof && p.formula = first.formula) = true := by
        rw [List.all_eq_true]
        intro p mem
        simp [(each p mem).1, (each p mem).2, shown]
      refine ⟨[first.formula], ?_, by rw [shown]; exact List.mem_cons_self⟩
      exact (advise_cases φs first second rest).trans (by rw [if_pos all])

theorem advises (wf : ∀ p ∈ ps, p.WellFormed) : Advises (advise ps) := by
  obtain ⟨proposal, said⟩ : ∃ proposal, advise ps = .ok proposal := ⟨_, rfl⟩
  refine ⟨proposal, said, fun φs proposed χ mem => ?_⟩
  rw [proposed] at said
  obtain ⟨δ, cases, rfl, two, each⟩ := proposes_iff.mp ⟨φs, said, mem⟩
  obtain ⟨first, inside⟩ := List.exists_mem_of_length_pos (Nat.lt_of_succ_lt two)
  rw [← (each first inside).2]
  exact (wf first (List.mem_cons_of_mem _ inside)).formula

end CaseAnalysis

end NaturalDeduction
