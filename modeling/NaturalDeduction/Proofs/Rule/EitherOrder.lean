import Mathlib.Data.List.Permutation
import NaturalDeduction.Proofs.Rule.Advice

/-!
# Two premises in either order

A check that is tried on every arrangement accepts when it accepts one of them, and for two premises
there are two arrangements. An advisor that looks at both orders proposes what either of them
yields. Where a check accepts exactly what its order yields, the two agree on every list of
premises; that is stated once here, for any such rule.
-/

namespace NaturalDeduction

/-- The premises are two plain formulas, in one order or the other. -/
def InEitherOrder (ps : List Premise) (φ ψ : Formula) : Prop :=
  ps = [.plain φ, .plain ψ] ∨ ps = [.plain ψ, .plain φ]

/-- In which order the premises come makes no difference. -/
theorem InEitherOrder.perm {ps qs : List Premise} {φ ψ : Formula} (perm : ps.Perm qs)
    (h : InEitherOrder ps φ ψ) : InEitherOrder qs φ ψ := by
  rcases h with rfl | rfl
  · exact List.pair_perm.mp perm
  · exact (List.pair_perm.mp perm).symm

/-- The formulas of well-formed premises are well formed. -/
theorem InEitherOrder.wellFormed {ps : List Premise} {φ ψ : Formula} (h : InEitherOrder ps φ ψ)
    (wf : ∀ p ∈ ps, p.WellFormed) : φ.WellFormed ∧ ψ.WellFormed := by
  rcases h with rfl | rfl
  · exact ⟨wf (.plain φ) (by simp), wf (.plain ψ) (by simp)⟩
  · exact ⟨wf (.plain φ) (by simp), wf (.plain ψ) (by simp)⟩

/-- Two premises have no third order. -/
theorem InEitherOrder.eq_or_swap {ps : List Premise} {φ ψ φ' ψ' : Formula}
    (first : InEitherOrder ps φ ψ) (second : InEitherOrder ps φ' ψ') :
    φ' = φ ∧ ψ' = ψ ∨ φ' = ψ ∧ ψ' = φ := by
  rcases first with rfl | rfl
  · rcases second with same | same
    · cases same
      exact .inl ⟨rfl, rfl⟩
    · cases same
      exact .inr ⟨rfl, rfl⟩
  · rcases second with same | same
    · cases same
      exact .inr ⟨rfl, rfl⟩
    · cases same
      exact .inl ⟨rfl, rfl⟩

namespace Outcome

/-- A check of one arrangement is not at a loss, and rejects for a cause if it rejects. -/
def Answers (x : Except Misuse Outcome) : Prop :=
  ∃ outcome, x = .ok outcome ∧ ∀ why, outcome = .rejected why → why.IsCause

/-- A check of one arrangement accepts it exactly when something is the case, and is never at a
loss. -/
structure Decides (x : Except Misuse Outcome) (P : Prop) : Prop where
  accepts : x = .ok .valid ↔ P
  answers : Answers x

theorem Decides.valid {P : Prop} (h : P) : Decides (.ok .valid) P :=
  ⟨iff_of_true rfl h, .valid, rfl, nofun⟩

theorem Decides.wrongOrder {P : Prop} (h : ¬P) : Decides (.ok .wrongOrder) P :=
  ⟨iff_of_false nofun h, .wrongOrder, rfl, nofun⟩

theorem Decides.reject {P : Prop} {why : Diagnostic} (cause : why.IsCause) (h : ¬P) :
    Decides (.ok (.rejected why)) P :=
  ⟨iff_of_false nofun h, .rejected why, rfl, fun _ same => Outcome.rejected.inj same ▸ cause⟩

theorem Decides.congr {x : Except Misuse Outcome} {P Q : Prop} (h : Decides x P) (same : P ↔ Q) :
    Decides x Q :=
  ⟨h.accepts.trans same, h.answers⟩

/-- A check that rejects in one case and goes on in the other. -/
theorem Decides.guard {refuted P : Prop} [Decidable refuted] {why : Diagnostic} {rest : Outcome}
    (cause : why.IsCause) (goesOn : ¬refuted → Decides (.ok rest) P) :
    Decides (.ok (if refuted then .rejected why else rest)) (¬refuted ∧ P) := by
  by_cases h : refuted
  · rw [if_pos h]
    exact .reject cause fun both => both.1 h
  · rw [if_neg h]
    exact (goesOn h).congr (and_iff_right h).symm

/-- What is reported of causes is a cause. -/
theorem isCause_report {fallthrough : Diagnostic} (cause : fallthrough.IsCause)
    {found : List Diagnostic} (causes : ∀ why ∈ found, why.IsCause) :
    (report fallthrough found).IsCause := by
  cases found with
  | nil => exact cause
  | cons why rest =>
    simp only [report]
    split
    · exact causes why List.mem_cons_self
    · trivial

variable {check : List Formula → Except Misuse Outcome} {fallthrough : Diagnostic}

/-- What is accepted in the end was accepted in some arrangement. -/
theorem exists_valid_of_firstValid {rest : List (List Formula)} {found : List Diagnostic}
    (h : firstValid check fallthrough rest found = .ok none) :
    ∃ φs ∈ rest, check φs = .ok .valid := by
  induction rest generalizing found with
  | nil => cases h
  | cons φs rest ih =>
    simp only [firstValid] at h
    obtain ⟨outcome, checked, h⟩ := bind_eq_ok.mp h
    cases outcome with
    | valid => exact ⟨φs, List.mem_cons_self, checked⟩
    | wrongOrder =>
      obtain ⟨ψs, mem, valid⟩ := ih h
      exact ⟨ψs, List.mem_cons_of_mem _ mem, valid⟩
    | rejected why =>
      obtain ⟨ψs, mem, valid⟩ := ih h
      exact ⟨ψs, List.mem_cons_of_mem _ mem, valid⟩

/-- A check that answers every arrangement answers them all together, and accepts if it accepts one
of them. -/
theorem firstValid_answers (cause : fallthrough.IsCause) {rest : List (List Formula)}
    (answers : ∀ φs ∈ rest, Answers (check φs)) {found : List Diagnostic}
    (causes : ∀ why ∈ found, why.IsCause) :
    NaturalDeduction.Answers (firstValid check fallthrough rest found) ∧
      ((∃ φs ∈ rest, check φs = .ok .valid) →
        firstValid check fallthrough rest found = .ok none) := by
  induction rest generalizing found with
  | nil =>
    refine ⟨.reject (isCause_report cause causes), ?_⟩
    intro h
    obtain ⟨_, mem, _⟩ := h
    cases mem
  | cons φs rest ih =>
    obtain ⟨outcome, checked, reason⟩ := answers φs List.mem_cons_self
    have later := fun ψs mem => answers ψs (List.mem_cons_of_mem φs mem)
    have skip (h : outcome ≠ .valid) : (∃ ψs ∈ φs :: rest, check ψs = .ok .valid) →
        ∃ ψs ∈ rest, check ψs = .ok .valid := by
      intro h
      obtain ⟨ψs, mem, valid⟩ := h
      rcases List.mem_cons.mp mem with rfl | mem
      · exact absurd (Except.ok.inj (checked.symm.trans valid)) h
      · exact ⟨ψs, mem, valid⟩
    simp only [firstValid, checked, ok_bind]
    cases outcome with
    | valid => exact ⟨.accept, fun _ => rfl⟩
    | wrongOrder =>
      have rest := ih later causes
      exact ⟨rest.1, fun valid => rest.2 (skip nofun valid)⟩
    | rejected why =>
      have extended : ∀ why' ∈ found ++ [why], why'.IsCause := by
        intro why' mem
        rcases List.mem_append.mp mem with old | new
        · exact causes why' old
        · exact List.mem_singleton.mp new ▸ reason why rfl
      have rest := ih later extended
      exact ⟨rest.1, fun valid => rest.2 (skip nofun valid)⟩

end Outcome

namespace Check

variable {f : Formula → Formula → Formula → Except Misuse Outcome} {shape : Shape}
  {c φ ψ : Formula}

/-- What is accepted in either order is valid in one of them. -/
theorem valid_of_inEitherOrder
    (h : inEitherOrder f shape ⟨c, [.plain φ, .plain ψ]⟩ = .ok none) :
    f c φ ψ = .ok .valid ∨ f c ψ φ = .ok .valid := by
  obtain ⟨φs, mem, valid⟩ := Outcome.exists_valid_of_firstValid h
  have pair : φs = [φ, ψ] ∨ φs = [ψ, φ] := List.mem_pair.mp mem
  rcases pair with rfl | rfl
  · exact .inl valid
  · exact .inr valid

/-- If the check answers in both orders, trying both answers, and accepts what one of them does. -/
theorem inEitherOrder_answers (first : Outcome.Answers (f c φ ψ))
    (second : Outcome.Answers (f c ψ φ)) :
    Answers (inEitherOrder f shape ⟨c, [.plain φ, .plain ψ]⟩) ∧
      (f c φ ψ = .ok .valid ∨ f c ψ φ = .ok .valid →
        inEitherOrder f shape ⟨c, [.plain φ, .plain ψ]⟩ = .ok none) := by
  have arrangements : ∀ φs ∈ [[φ, ψ], [ψ, φ]], Outcome.Answers (arranged f c φs) := by
    intro φs mem
    rcases List.mem_pair.mp mem with rfl | rfl
    · exact first
    · exact second
  have cause : (Diagnostic.absentShape shape.text).IsCause := trivial
  have both := Outcome.firstValid_answers cause arrangements (List.forall_mem_nil _)
  refine ⟨both.1, fun valid => both.2 ?_⟩
  rcases valid with valid | valid
  · exact ⟨[φ, ψ], List.mem_cons_self, valid⟩
  · exact ⟨[ψ, φ], List.mem_cons_of_mem _ List.mem_cons_self, valid⟩

end Check

namespace Rule

variable {r : Rule} {f : Formula → Formula → Formula → Except Misuse Outcome} {shape : Shape}
  {c : Formula} {ps : List Premise}

/-- The rule takes two plain premises, and its check is tried on both orders of them. -/
structure TriesBothOrders (r : Rule) (f : Formula → Formula → Formula → Except Misuse Outcome)
    (shape : Shape) : Prop extends r.TakesPlain 2 where
  check : r.check = Check.inEitherOrder f shape

namespace TriesBothOrders

/-- What the rule accepts, its check accepts in one of the orders. -/
theorem exists_valid (tries : r.TriesBothOrders f shape) (h : r.Accepts c ps) :
    ∃ φ ψ, InEitherOrder ps φ ψ ∧ f c φ ψ = .ok .valid := by
  obtain ⟨φ, ψ, rfl, accepted⟩ := tries.accepts_iff_two.mp h
  rw [tries.check] at accepted
  rcases Check.valid_of_inEitherOrder accepted with valid | valid
  · exact ⟨φ, ψ, .inl rfl, valid⟩
  · exact ⟨ψ, φ, .inr rfl, valid⟩

/-- The rule accepts what its check accepts in one of the orders, if the check answers in both. -/
theorem accepts_of_valid (tries : r.TriesBothOrders f shape) {φ ψ : Formula}
    (pair : InEitherOrder ps φ ψ) (valid : f c φ ψ = .ok .valid)
    (other : Outcome.Answers (f c ψ φ)) : r.Accepts c ps := by
  have answers : Outcome.Answers (f c φ ψ) := ⟨.valid, valid, nofun⟩
  rw [tries.accepts_iff_two, tries.check]
  rcases pair with rfl | rfl
  · exact ⟨φ, ψ, rfl, (Check.inEitherOrder_answers answers other).2 (.inl valid)⟩
  · exact ⟨ψ, φ, rfl, (Check.inEitherOrder_answers other answers).2 (.inr valid)⟩

/-- A rule that tries both orders accepts what its check decides for one of them. -/
theorem accepts_iff (tries : r.TriesBothOrders f shape) {P : Formula → Formula → Prop}
    (decides : ∀ φ ψ, Outcome.Decides (f c φ ψ) (P φ ψ)) :
    r.Accepts c ps ↔ ∃ φ ψ, InEitherOrder ps φ ψ ∧ P φ ψ := by
  constructor
  · intro accepted
    obtain ⟨φ, ψ, pair, valid⟩ := tries.exists_valid accepted
    exact ⟨φ, ψ, pair, (decides φ ψ).accepts.mp valid⟩
  · intro h
    obtain ⟨φ, ψ, pair, h⟩ := h
    exact tries.accepts_of_valid pair ((decides φ ψ).accepts.mpr h) (decides ψ φ).answers

/-- A check that answers both orders of two premises answers every step of its shape. -/
theorem answers (tries : r.TriesBothOrders f shape)
    (answers : ∀ φ ψ, InEitherOrder ps φ ψ → Outcome.Answers (f c φ ψ))
    (shape : r.shapeDiagnostic? ⟨c, ps⟩ = .none) : Answers (r.check ⟨c, ps⟩) := by
  refine tries.answers_two (fun φ ψ same => ?_) shape
  rw [tries.check]
  exact (Check.inEitherOrder_answers (answers φ ψ (.inl same)) (answers ψ φ (.inr same))).1

end TriesBothOrders

end Rule

namespace Advisor

/-- What an order of two formulas yields is exactly what it should, and no order is at a loss. -/
def Yields (x : Except Misuse (Option Formula)) (P : Formula → Prop) : Prop :=
  ∃ a, x = .ok a ∧ ∀ χ, a = some χ ↔ P χ

theorem Yields.none {P : Formula → Prop} (h : ∀ χ, ¬P χ) : Yields (.ok none) P :=
  ⟨.none, rfl, fun χ => iff_of_false nofun (h χ)⟩

theorem Yields.some {P : Formula → Prop} {χ : Formula} (h : ∀ ω, P ω ↔ ω = χ) :
    Yields (.ok (some χ)) P :=
  ⟨.some χ, rfl, fun ω => by rw [h, Option.some.injEq, eq_comm]⟩

variable {f : Formula → Formula → Except Misuse (Option Formula)} {ps : List Premise}
  {φ ψ χ : Formula}

/-- Proposals from both orders of two formulas are what the one or the other order yields. -/
theorem bothOrders_spec {P Q : Formula → Prop} (first : Yields (f φ ψ) P)
    (second : Yields (f ψ φ) Q) :
    ∃ proposal, bothOrders f φ ψ = .ok proposal ∧
      ∀ χ, (∃ φs, proposal = some φs ∧ χ ∈ φs) ↔ P χ ∨ Q χ := by
  obtain ⟨a, first, spec⟩ := first
  obtain ⟨b, second, spec'⟩ := second
  refine ⟨unlessEmpty ([a, b].filterMap id), ?_, fun χ => ?_⟩
  · simp only [bothOrders, first, second, ok_bind]
  · have mem : χ ∈ [a, b].filterMap id ↔ a = some χ ∨ b = some χ := by
      simp only [List.mem_filterMap, List.mem_pair, id, exists_eq_or_imp, exists_eq_left]
    rw [← spec, ← spec', ← mem]
    constructor
    · intro h
      obtain ⟨φs, same, inside⟩ := h
      rw [(unlessEmpty_eq_some_iff.mp same).1]
      exact inside
    · intro inside
      exact ⟨_, unlessEmpty_eq_some_iff.mpr ⟨rfl, List.ne_nil_of_mem inside⟩, inside⟩

/-- If what either order yields is well formed, so is every proposal. -/
theorem advises_bothOrders {P Q : Formula → Prop} (first : Yields (f φ ψ) P)
    (second : Yields (f ψ φ) Q) (wf : ∀ χ, P χ ∨ Q χ → χ.WellFormed) :
    Advises (bothOrders f φ ψ) := by
  obtain ⟨proposal, same, spec⟩ := bothOrders_spec first second
  exact ⟨proposal, same, fun φs proposed χ mem => wf χ ((spec χ).mp ⟨φs, proposed, mem⟩)⟩

variable {P : Formula → Formula → Formula → Prop} (yields : ∀ φ ψ, Yields (f φ ψ) (P φ ψ))
include yields

/-- An advisor that looks at two premises in both orders proposes what one of the orders yields. -/
theorem exists_inEitherOrder_iff :
    (∃ φs, inEitherOrder f ps = .ok (some φs) ∧ χ ∈ φs) ↔
      ∃ φ ψ, InEitherOrder ps φ ψ ∧ P φ ψ χ := by
  simp only [inEitherOrder, ofTwo_eq_some_iff]
  constructor
  · intro h
    obtain ⟨φs, ⟨φ, ψ, rfl, proposed⟩, mem⟩ := h
    obtain ⟨proposal, same, spec⟩ := bothOrders_spec (yields φ ψ) (yields ψ φ)
    rcases (spec χ).mp ⟨φs, Except.ok.inj (same.symm.trans proposed), mem⟩ with h | h
    · exact ⟨φ, ψ, .inl rfl, h⟩
    · exact ⟨ψ, φ, .inr rfl, h⟩
  · intro h
    obtain ⟨φ, ψ, rfl | rfl, h⟩ := h
    · obtain ⟨proposal, same, spec⟩ := bothOrders_spec (yields φ ψ) (yields ψ φ)
      obtain ⟨φs, rfl, mem⟩ := (spec χ).mpr (.inl h)
      exact ⟨φs, ⟨φ, ψ, rfl, same⟩, mem⟩
    · obtain ⟨proposal, same, spec⟩ := bothOrders_spec (yields ψ φ) (yields φ ψ)
      obtain ⟨φs, rfl, mem⟩ := (spec χ).mpr (.inr h)
      exact ⟨φs, ⟨ψ, φ, rfl, same⟩, mem⟩

/-- What an advisor yields in either order is well formed if it is so in each. -/
theorem advises_inEitherOrder
    (wf : ∀ {φ ψ χ}, P φ ψ χ → φ.WellFormed → ψ.WellFormed → χ.WellFormed)
    (wfs : ∀ p ∈ ps, p.WellFormed) : Advises (inEitherOrder f ps) := by
  refine advises_ofTwo fun φ ψ pair => ?_
  obtain ⟨wfφ, wfψ⟩ := InEitherOrder.wellFormed (.inl pair) wfs
  refine advises_bothOrders (yields φ ψ) (yields ψ φ) ?_
  intro χ h
  rcases h with h | h
  · exact wf h wfφ wfψ
  · exact wf h wfψ wfφ

end Advisor

end NaturalDeduction
