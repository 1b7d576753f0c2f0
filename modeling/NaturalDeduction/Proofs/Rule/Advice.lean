import NaturalDeduction.Proofs.Formula.WellFormed
import NaturalDeduction.Proofs.Rule.Answer

/-!
# Advice

What an advisor proposes for premises, and the forms in which advisors are written. An advisor is
never at a loss on well-formed premises, and then proposes well-formed formulas only.
-/

namespace NaturalDeduction

/-- A premise is well formed when its formulas are. -/
def Premise.WellFormed : Premise → Prop
  | .plain φ => φ.WellFormed
  | .subproof assumptions ψ => (∀ φ ∈ assumptions, φ.WellFormed) ∧ ψ.WellFormed

instance : DecidablePred Premise.WellFormed
  | .plain φ => inferInstanceAs (Decidable φ.WellFormed)
  | .subproof assumptions ψ =>
    inferInstanceAs (Decidable ((∀ φ ∈ assumptions, φ.WellFormed) ∧ ψ.WellFormed))

/-- The formula of a well-formed premise is well formed. -/
theorem Premise.WellFormed.formula {p : Premise} (wf : p.WellFormed) : p.formula.WellFormed := by
  cases p with
  | plain φ => exact wf
  | subproof assumptions ψ => exact wf.2

/-- An advisor is not at a loss, and proposes well-formed formulas if it proposes any. -/
def Advises (x : Except Misuse (Option (List Formula))) : Prop :=
  ∃ proposal, x = .ok proposal ∧ ∀ φs, proposal = some φs → ∀ φ ∈ φs, φ.WellFormed

theorem Advises.none : Advises (.ok none) := ⟨.none, rfl, nofun⟩

theorem Advises.some {φs : List Formula} (wf : ∀ φ ∈ φs, φ.WellFormed) :
    Advises (.ok (some φs)) :=
  ⟨.some φs, rfl, fun _ same => Option.some.inj same ▸ wf⟩

/-- The rule's advisor applies to the premises, and the formula is one that it proposes. -/
def Rule.Proposes (r : Rule) (ps : List Premise) (χ : Formula) : Prop :=
  ∃ φs, r.propose ps = .ok (some φs) ∧ χ ∈ φs

namespace Advisor

variable {ps : List Premise} {φs : List Formula}

@[simp] theorem plainFormulas?_map_plain (φs : List Formula) :
    plainFormulas? (φs.map .plain) = some φs := by
  induction φs with
  | nil => rfl
  | cons φ φs ih =>
    simp only [plainFormulas?, List.map_cons, List.mapM_cons] at ih ⊢
    rw [ih]
    rfl

/-- An advisor that wants plain premises sees their formulas, or none if a subproof is among
them. -/
theorem plainFormulas?_cases (ps : List Premise) :
    (∃ φs : List Formula, ps = φs.map .plain) ∨ plainFormulas? ps = none := by
  induction ps with
  | nil => exact .inl ⟨[], rfl⟩
  | cons p ps ih =>
    cases p with
    | subproof assumptions ψ => exact .inr rfl
    | plain φ =>
      rcases ih with ⟨φs, rfl⟩ | refused
      · exact .inl ⟨φ :: φs, rfl⟩
      · right
        simp only [plainFormulas?, List.mapM_cons] at refused ⊢
        rw [refused]
        rfl

section OfOne

variable {f : Formula → Except Misuse (Option (List Formula))}

/-- An advisor for one plain premise has nothing to say of any other premises. -/
theorem ofOne_cases (f : Formula → Except Misuse (Option (List Formula))) (ps : List Premise) :
    (∃ φ, ps = [.plain φ]) ∨ ofOne f ps = .ok none := by
  rcases plainFormulas?_cases ps with ⟨ψs, rfl⟩ | refused
  · rcases ψs with _ | ⟨φ, _ | ⟨ψ, ψs⟩⟩
    · exact .inr rfl
    · exact .inl ⟨φ, rfl⟩
    · exact .inr (by simp only [ofOne, plainFormulas?_map_plain])
  · exact .inr (by simp only [ofOne, refused])

/-- An advisor for one formula has something to say of a single plain premise only. -/
theorem ofOne_eq_some_iff :
    ofOne f ps = .ok (some φs) ↔ ∃ φ, ps = [.plain φ] ∧ f φ = .ok (some φs) := by
  constructor
  · intro h
    rcases ofOne_cases f ps with ⟨φ, rfl⟩ | silent
    · exact ⟨φ, rfl, h⟩
    · cases silent.symm.trans h
  · intro h
    obtain ⟨φ, rfl, h⟩ := h
    exact h

/-- An advisor for one formula gives advice if it does so for every plain premise. -/
theorem advises_ofOne (h : ∀ φ, ps = [.plain φ] → Advises (f φ)) : Advises (ofOne f ps) := by
  rcases ofOne_cases f ps with ⟨φ, rfl⟩ | silent
  · exact h φ rfl
  · exact silent ▸ .none

end OfOne

section OfTwo

variable {f : Formula → Formula → Except Misuse (Option (List Formula))}

/-- An advisor for two plain premises has nothing to say of any other premises. -/
theorem ofTwo_cases (f : Formula → Formula → Except Misuse (Option (List Formula)))
    (ps : List Premise) : (∃ φ ψ, ps = [.plain φ, .plain ψ]) ∨ ofTwo f ps = .ok none := by
  rcases plainFormulas?_cases ps with ⟨ψs, rfl⟩ | refused
  · rcases ψs with _ | ⟨φ, _ | ⟨ψ, _ | ⟨χ, ψs⟩⟩⟩
    · exact .inr rfl
    · exact .inr rfl
    · exact .inl ⟨φ, ψ, rfl⟩
    · exact .inr (by simp only [ofTwo, plainFormulas?_map_plain])
  · exact .inr (by simp only [ofTwo, refused])

/-- An advisor for two formulas has something to say of two plain premises only. -/
theorem ofTwo_eq_some_iff :
    ofTwo f ps = .ok (some φs) ↔ ∃ φ ψ, ps = [.plain φ, .plain ψ] ∧ f φ ψ = .ok (some φs) := by
  constructor
  · intro h
    rcases ofTwo_cases f ps with ⟨φ, ψ, rfl⟩ | silent
    · exact ⟨φ, ψ, rfl, h⟩
    · cases silent.symm.trans h
  · intro h
    obtain ⟨φ, ψ, rfl, h⟩ := h
    exact h

/-- An advisor for two formulas gives advice if it does so for every two plain premises. -/
theorem advises_ofTwo (h : ∀ φ ψ, ps = [.plain φ, .plain ψ] → Advises (f φ ψ)) :
    Advises (ofTwo f ps) := by
  rcases ofTwo_cases f ps with ⟨φ, ψ, rfl⟩ | silent
  · exact h φ ψ rfl
  · exact silent ▸ .none

end OfTwo

/-! ## Proposals, unless there are none -/

/-- Proposals are made where there are any. -/
theorem unlessEmpty_eq_some_iff {ψs : List Formula} :
    unlessEmpty ψs = some φs ↔ ψs = φs ∧ φs ≠ [] := by
  cases ψs with
  | nil =>
    simp only [unlessEmpty, List.isEmpty_nil, ↓reduceIte, reduceCtorEq, false_iff, not_and_not_right]
    exact Eq.symm
  | cons ψ ψs =>
    simp only [unlessEmpty, List.isEmpty_cons, Bool.false_eq_true, ↓reduceIte, Option.some.injEq]
    constructor
    · rintro rfl
      exact ⟨rfl, List.cons_ne_nil ψ ψs⟩
    · exact And.left

end Advisor

end NaturalDeduction
