import NaturalDeduction.Proofs.Formula.WellFormed
import NaturalDeduction.Proofs.Rule.EitherOrder
import NaturalDeduction.Rule.Biconditional

/-!
# What the rules for biconditionals accept and propose

The introduction wants both directions of its conclusion. When both sides are the same formula the
two directions are too, and the premises are then twice that implication.
-/

namespace NaturalDeduction

open Formula (connective_eq_conditional connective_eq_biconditional)

variable {c φ ψ χ : Formula} {ps : List Premise}

namespace BiconditionalIntroduction

/-- A premise fits when it is one of the two directions. -/
theorem misfit?_decides (l r φ : Formula) :
    Decides (.ok (misfit? (.imp l r) (.imp r l) φ)) (φ = .imp l r ∨ φ = .imp r l) := by
  by_cases head : φ.connective = .conditional
  · rw [misfit?, if_neg (not_not.mpr head)]
    by_cases fits : φ = .imp l r ∨ φ = .imp r l
    · rw [if_pos fits]
      exact .accept fits
    · rw [if_neg fits]
      exact .reject trivial fits
  · rw [misfit?, if_pos head]
    refine .reject trivial ?_
    intro h
    rcases h with rfl | rfl
    · exact head rfl
    · exact head rfl

/-- Every premise is one of two formulas, and both are among the premises. -/
def Comprise (φs : List Formula) (a b : Formula) : Prop :=
  (∀ φ ∈ φs, φ = a ∨ φ = b) ∧ a ∈ φs ∧ b ∈ φs

/-- Of a biconditional the check wants both directions and nothing else. -/
theorem diagnose_iff_decides (l r : Formula) (φs : List Formula) :
    Decides (diagnose (.iff l r) φs) (Comprise φs (.imp l r) (.imp r l)) := by
  have each := decides_findSome? φs (misfit?_decides l r)
  have both : Decides (.ok (([Formula.imp l r, .imp r l].find? (· ∉ φs)).map .absentFormula))
      (.imp l r ∈ φs ∧ .imp r l ∈ φs) :=
    (decides_find? Diagnostic.isCause_absentFormula _).congr (by simp)
  exact each.orElse both

/-- The check wants every premise to be a direction of the conclusion, and both directions. -/
theorem diagnose_decides (c : Formula) (φs : List Formula) :
    Decides (diagnose c φs) (∃ l r, c = .iff l r ∧ Comprise φs (.imp l r) (.imp r l)) := by
  by_cases head : c.connective = .biconditional
  · obtain ⟨l, r, rfl⟩ := connective_eq_biconditional.mp head
    refine (diagnose_iff_decides l r φs).congr ⟨fun h => ⟨l, r, rfl, h⟩, ?_⟩
    intro h
    obtain ⟨_, _, same, h⟩ := h
    cases same
    exact h
  · rw [diagnose, if_pos head]
    refine .reject trivial ?_
    intro h
    obtain ⟨l, r, rfl, -⟩ := h
    exact head rfl

/-- Two premises comprise two formulas when they are one of each. -/
theorem comprise_pair {a b φ ψ : Formula} :
    Comprise [φ, ψ] a b ↔ φ = a ∧ ψ = b ∨ φ = b ∧ ψ = a := by
  simp only [Comprise, List.mem_pair, forall_eq_or_imp, forall_eq]
  constructor
  · intro h
    obtain ⟨⟨rfl | rfl, rfl | rfl⟩, forward, backward⟩ := h
    · rcases backward with rfl | rfl <;> exact .inl ⟨rfl, rfl⟩
    · exact .inl ⟨rfl, rfl⟩
    · exact .inr ⟨rfl, rfl⟩
    · rcases forward with rfl | rfl <;> exact .inl ⟨rfl, rfl⟩
  · intro h
    rcases h with ⟨rfl, rfl⟩ | ⟨rfl, rfl⟩
    · exact ⟨⟨.inl rfl, .inr rfl⟩, .inl rfl, .inr rfl⟩
    · exact ⟨⟨.inr rfl, .inl rfl⟩, .inr rfl, .inl rfl⟩

theorem takesPlain : rule.TakesPlain 2 := ⟨fun _ => rfl, fun _ => rfl⟩

/-- The conclusion is a biconditional, and the premises are its two directions. -/
theorem accepts_iff :
    rule.Accepts c ps ↔ ∃ l r, c = .iff l r ∧ InEitherOrder ps (.imp l r) (.imp r l) := by
  have checked (φ ψ : Formula) : rule.check ⟨c, [.plain φ, .plain ψ]⟩ = diagnose c [φ, ψ] := rfl
  rw [takesPlain.accepts_iff_two]
  simp only [checked, (diagnose_decides c _).accepts, comprise_pair]
  constructor
  · intro h
    obtain ⟨_, _, rfl, l, r, rfl, ⟨rfl, rfl⟩ | ⟨rfl, rfl⟩⟩ := h
    · exact ⟨l, r, rfl, .inl rfl⟩
    · exact ⟨l, r, rfl, .inr rfl⟩
  · intro h
    obtain ⟨l, r, rfl, rfl | rfl⟩ := h
    · exact ⟨_, _, rfl, l, r, rfl, .inl ⟨rfl, rfl⟩⟩
    · exact ⟨_, _, rfl, l, r, rfl, .inr ⟨rfl, rfl⟩⟩

theorem answers : Answers (rule.check ⟨c, ps⟩) := (diagnose_decides c _).answers

/-- The advisor has something to say of two converse implications only. -/
theorem advise_cases (φ ψ : Formula) :
    (∃ a b, φ = .imp a b ∧ ψ = .imp b a ∧ advise φ ψ = .ok (some [.iff a b, .iff b a])) ∨
      (∀ a b, φ = .imp a b → ψ ≠ .imp b a) ∧ advise φ ψ = .ok none := by
  by_cases heads : φ.connective ≠ .conditional ∨ ψ.connective ≠ .conditional
  · refine .inr ⟨?_, by rw [advise, if_pos heads]⟩
    rintro a b rfl rfl
    exact heads.elim (· rfl) (· rfl)
  · obtain ⟨hφ, hψ⟩ := not_or.mp heads
    obtain ⟨a, b, rfl⟩ := connective_eq_conditional.mp (not_not.mp hφ)
    obtain ⟨d, e, rfl⟩ := connective_eq_conditional.mp (not_not.mp hψ)
    have said : advise (.imp a b) (.imp d e) =
        .ok (if a ≠ e ∨ b ≠ d then none else some [.iff a b, .iff b a]) := rfl
    by_cases converse : a = e ∧ b = d
    · obtain ⟨rfl, rfl⟩ := converse
      exact .inl ⟨a, b, rfl, rfl, said.trans (by rw [if_neg fun h => h.elim (· rfl) (· rfl)])⟩
    · refine .inr ⟨?_, said.trans (by rw [if_pos (not_and_or.mp converse)])⟩
      intro _ _ first second
      cases first
      cases second
      exact converse ⟨rfl, rfl⟩

/-- The advisor proposes the biconditional of two converse implications, either way round. -/
theorem proposes_iff :
    rule.Proposes ps χ ↔ ∃ l r, χ = .iff l r ∧ InEitherOrder ps (.imp l r) (.imp r l) := by
  constructor
  · intro h
    obtain ⟨φs, proposed, mem⟩ := h
    obtain ⟨φ, ψ, rfl, proposed⟩ := Advisor.ofTwo_eq_some_iff.mp proposed
    rcases advise_cases φ ψ with ⟨a, b, rfl, rfl, said⟩ | ⟨-, silent⟩
    · cases said.symm.trans proposed
      rcases List.mem_pair.mp mem with rfl | rfl
      · exact ⟨a, b, rfl, .inl rfl⟩
      · exact ⟨b, a, rfl, .inr rfl⟩
    · cases silent.symm.trans proposed
  · -- Whichever direction comes first, both biconditionals are proposed.
    have proposed (a b : Formula) : rule.propose [.plain (.imp a b), .plain (.imp b a)] =
        .ok (some [.iff a b, .iff b a]) := by
      rcases advise_cases (.imp a b) (.imp b a) with ⟨_, _, same, -, said⟩ | ⟨differ, -⟩
      · cases same
        exact said
      · exact absurd rfl (differ a b rfl)
    intro h
    obtain ⟨l, r, rfl, rfl | rfl⟩ := h
    · exact ⟨_, proposed l r, List.mem_cons_self⟩
    · exact ⟨_, proposed r l, List.mem_cons_of_mem _ List.mem_cons_self⟩

theorem advises (wf : ∀ p ∈ ps, p.WellFormed) : Advises (Advisor.ofTwo advise ps) := by
  refine Advisor.advises_ofTwo ?_
  rintro φ ψ rfl
  have wfφ : φ.WellFormed := wf (.plain φ) List.mem_cons_self
  rcases advise_cases φ ψ with ⟨a, b, rfl, rfl, said⟩ | ⟨-, silent⟩
  · rw [said]
    refine .some fun χ mem => ?_
    rcases List.mem_pair.mp mem with rfl | rfl
    · exact .iff wfφ.of_imp.1 wfφ.of_imp.2
    · exact .iff wfφ.of_imp.2 wfφ.of_imp.1
  · rw [silent]
    exact .none

end BiconditionalIntroduction

namespace BiconditionalElimination

/-- The third formula is the side of the first across from the second. When both sides are the same
formula, so is the side across from it. -/
def Across (biconditional other χ : Formula) : Prop :=
  biconditional = .iff other χ ∨ biconditional = .iff χ other

/-- From one side of a biconditional one gets across to the other. -/
theorem across_iff {l r ψ χ : Formula} :
    Across (.iff l r) ψ χ ↔ l = ψ ∧ r = χ ∨ l = χ ∧ r = ψ := by
  simp only [Across, Formula.iff.injEq]

theorem Across.connective_eq {φ ψ χ : Formula} (across : Across φ ψ χ) :
    φ.connective = .biconditional := by
  rcases across with rfl | rfl
  · rfl
  · rfl

/-- The advisor finds the side that lies across. -/
theorem opposite?_yields (φ ψ : Formula) : Advisor.Yields (opposite? φ ψ) (Across φ ψ) := by
  by_cases head : φ.connective = .biconditional
  · obtain ⟨l, r, rfl⟩ := connective_eq_biconditional.mp head
    have opposite : opposite? (.iff l r) ψ =
        .ok (if ψ = l then some r else if ψ = r then some l else none) := rfl
    rw [opposite]
    by_cases left : ψ = l
    · rw [if_pos left]
      refine .some fun χ => ?_
      rw [across_iff]
      grind
    · rw [if_neg left]
      by_cases right : ψ = r
      · rw [if_pos right]
        refine .some fun χ => ?_
        rw [across_iff]
        grind
      · rw [if_neg right]
        refine .none fun χ across => ?_
        obtain ⟨same, -⟩ | ⟨-, same⟩ := across_iff.mp across
        · exact left same.symm
        · exact right same.symm
  · rw [opposite?, if_pos head]
    exact .none fun χ across => head across.connective_eq

/-- The check accepts exactly the side across. -/
theorem outcome_decides (c φ ψ : Formula) : Outcome.Decides (outcome c φ ψ) (Across φ ψ c) := by
  by_cases head : φ.connective = .biconditional
  · obtain ⟨side, found, spec⟩ := opposite?_yields φ ψ
    rw [outcome, if_neg (not_not.mpr head), found, ok_bind, ← spec]
    cases side with
    | none => exact .reject trivial nofun
    | some expected =>
      show Outcome.Decides (.ok (if c ≠ expected then _ else .valid)) _
      by_cases reached : c = expected
      · rw [if_neg (not_not.mpr reached)]
        exact .valid (by rw [reached])
      · rw [if_pos reached]
        exact .reject trivial fun same => reached (Option.some.inj same).symm
  · rw [outcome, if_pos head]
    exact .wrongOrder fun across => head across.connective_eq

theorem triesBothOrders : rule.TriesBothOrders outcome .biconditional :=
  ⟨⟨fun _ => rfl, fun _ => rfl⟩, rfl⟩

/-- The premises are a biconditional of the conclusion and something, and that something. -/
theorem accepts_iff : rule.Accepts c ps ↔ ∃ φ ψ, InEitherOrder ps φ ψ ∧ Across φ ψ c :=
  triesBothOrders.accepts_iff (outcome_decides c)

theorem answers (shape : rule.shapeDiagnostic? ⟨c, ps⟩ = none) : Answers (rule.check ⟨c, ps⟩) :=
  triesBothOrders.answers (fun φ ψ _ => (outcome_decides c φ ψ).answers) shape

/-- The advisor proposes what lies across, whichever premise the biconditional is. -/
theorem proposes_iff : rule.Proposes ps χ ↔ ∃ φ ψ, InEitherOrder ps φ ψ ∧ Across φ ψ χ :=
  Advisor.exists_inEitherOrder_iff opposite?_yields

theorem advises (wf : ∀ p ∈ ps, p.WellFormed) : Advises (Advisor.inEitherOrder opposite? ps) := by
  refine Advisor.advises_inEitherOrder opposite?_yields ?_ wf
  rintro φ ψ χ (rfl | rfl) wf -
  · exact wf.of_iff.2
  · exact wf.of_iff.1

end BiconditionalElimination

end NaturalDeduction
