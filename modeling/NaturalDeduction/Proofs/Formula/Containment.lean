import Mathlib.Algebra.Ring.Parity
import Mathlib.Logic.Function.Iterate
import NaturalDeduction.Formula.Subformula
import NaturalDeduction.Proofs.Formula.Reduction

/-!
# What is contained up to double negation

Containment up to double negation looks for one reduced formula in another. What a formula contains
as it is written need not be there any more once the formula is reduced: the lower half of a double
negation goes away with the upper one, and `¬¬P` does not contain `¬P` up to double negation.

`Formula.occurrences` lists what a formula contains, each with the number of negations that it
stands directly beneath. An even number of them goes away in pairs and leaves what is beneath; an
odd number leaves one negation, and what is beneath it stays unless it is a negation itself. So a
negation is lost where it stands beneath an odd number of others, and nothing else ever is
(`Formula.hasReducedSubformula_iff`).
-/

namespace NaturalDeduction.Formula

variable {φ ψ χ σ : Formula} {k n : Nat}

/-- A statement holds of every formula if it passes from the operands to the formula. -/
theorem induction_on_operands {P : Formula → Prop}
    (step : ∀ φ : Formula, (∀ χ ∈ φ.operands, P χ) → P φ) (φ : Formula) : P φ := by
  induction φ using Formula.induction with
  | atom n => exact step _ nofun
  | neg φ ih => exact step _ (by simpa [operands] using ih)
  | junction j φs ih => exact step _ ih
  | imp φ ψ ihφ ihψ => exact step _ (by simpa [operands] using ⟨ihφ, ihψ⟩)
  | iff φ ψ ihφ ihψ => exact step _ (by simpa [operands] using ⟨ihφ, ihψ⟩)

/-! ## Containment -/

theorem containsAny_iff {φs : List Formula} :
    containsAny ψ φs = true ↔ ∃ χ ∈ φs, χ.hasSubformula ψ = true := by
  induction φs with
  | nil => simp [containsAny]
  | cons φ φs ih => simp [containsAny, ih, hasSubformula]

/-- A formula contains itself and what its operands contain. -/
theorem hasSubformula_iff :
    φ.hasSubformula ψ = true ↔ φ = ψ ∨ ∃ χ ∈ φ.operands, χ.hasSubformula ψ = true := by
  unfold hasSubformula
  cases φ with
  | atom n => simp [contains, operands]
  | neg φ => simp [contains, operands]
  | junction j φs =>
    rw [contains, Bool.or_eq_true, decide_eq_true_iff, containsAny_iff]
    rfl
  | imp φ φ' => simp [contains, operands, or_assoc]
  | iff φ φ' => simp [contains, operands, or_assoc]

/-- Every formula contains itself. -/
theorem hasSubformula_self (φ : Formula) : φ.hasSubformula φ = true :=
  hasSubformula_iff.mpr (.inl rfl)

/-- A formula contains what an operand of it contains. -/
theorem hasSubformula_of_operand (mem : χ ∈ φ.operands) (inner : χ.hasSubformula ψ = true) :
    φ.hasSubformula ψ = true :=
  hasSubformula_iff.mpr (.inr ⟨χ, mem, inner⟩)

/-! ## Occurrences -/

mutual

/-- The subformulas from left to right, each with the number of negations that it stands directly
beneath; the formula itself is taken to stand beneath `above` of them. -/
def occurrences (above : Nat) : Formula → List (Nat × Formula)
  | .atom n => [(above, .atom n)]
  | .neg φ => (above, .neg φ) :: occurrences (above + 1) φ
  | .junction j φs => (above, .junction j φs) :: occurrencesInAll φs
  | .imp φ ψ => (above, .imp φ ψ) :: (occurrences 0 φ ++ occurrences 0 ψ)
  | .iff φ ψ => (above, .iff φ ψ) :: (occurrences 0 φ ++ occurrences 0 ψ)

/-- The occurrences in several formulas, none of which is beneath a negation. -/
def occurrencesInAll : List Formula → List (Nat × Formula)
  | [] => []
  | φ :: φs => occurrences 0 φ ++ occurrencesInAll φs

end

theorem occurrencesInAll_eq_flatMap (φs : List Formula) :
    occurrencesInAll φs = φs.flatMap (occurrences 0) := by
  induction φs with
  | nil => rfl
  | cons φ φs ih => rw [occurrencesInAll, ih, List.flatMap_cons]

/-- Below a formula that is no negation the counting of negations starts anew. -/
theorem occurrences_of_ne_negation (head : φ.connective ≠ .negation) (k : Nat) :
    occurrences k φ = (k, φ) :: φ.operands.flatMap (occurrences 0) := by
  cases φ with
  | neg φ => exact absurd rfl head
  | junction j φs => rw [occurrences, occurrencesInAll_eq_flatMap, operands]
  | _ => simp [occurrences, operands]

/-- A formula occurs in itself, under as many negations as were above it. -/
theorem mem_occurrences_self (k : Nat) (φ : Formula) : (k, φ) ∈ occurrences k φ := by
  cases φ <;> rw [occurrences] <;> exact List.mem_cons_self

theorem exists_mem_cons_iff {rest : List (Nat × Formula)} :
    (∃ n, (n, ψ) ∈ (k, φ) :: rest) ↔ φ = ψ ∨ ∃ n, (n, ψ) ∈ rest := by
  simp only [List.mem_cons, Prod.mk.injEq, exists_or, exists_and_right, exists_eq, true_and]
  rw [eq_comm]

/-- What a formula contains is what occurs in it, beneath whatever negations. -/
theorem hasSubformula_iff_mem_occurrences (k : Nat) :
    φ.hasSubformula ψ = true ↔ ∃ n, (n, ψ) ∈ occurrences k φ := by
  induction φ using induction_on_operands generalizing k with
  | step φ ih =>
    rw [hasSubformula_iff]
    by_cases head : φ.connective = .negation
    · obtain ⟨φ, rfl⟩ := connective_eq_negation.mp head
      rw [occurrences, exists_mem_cons_iff, ← ih φ List.mem_cons_self (k + 1)]
      simp [operands]
    · rw [occurrences_of_ne_negation head, exists_mem_cons_iff]
      refine or_congr_right ?_
      simp only [List.mem_flatMap]
      rw [exists_comm]
      refine exists_congr fun χ => ?_
      rw [exists_and_left]
      exact and_congr_right fun mem => ih χ mem 0

/-! ## What reduction leaves -/

/-- Negations go away in pairs, and of an odd number of them one is left. -/
theorem reduce_iterate_neg (k : Nat) (φ : Formula) :
    (neg^[k] φ).reduce = if Even k then φ.reduce else φ.reduce.opposite := by
  induction k generalizing φ with
  | zero => rfl
  | succ k ih =>
    have back : φ.reduce.opposite.opposite = φ.reduce := opposite_opposite (reduce_ne_neg_neg φ)
    rw [Function.iterate_succ_apply, ih, reduce_neg, back]
    simp only [Nat.even_add_one]
    split <;> simp [*]

/-- Negations in front of a formula that is none itself take nothing away from what the reduced
formula contains. -/
theorem hasSubformula_reduce_iterate_neg (head : φ.connective ≠ .negation) (k : Nat)
    (inner : φ.reduce.hasSubformula σ = true) :
    (neg^[k] φ).reduce.hasSubformula σ = true := by
  rw [reduce_iterate_neg]
  split
  · exact inner
  · have outer : φ.reduce.opposite = .neg φ.reduce :=
      opposite_eq_neg (by rwa [connective_reduce head])
    rw [outer]
    exact hasSubformula_of_operand List.mem_cons_self inner

/-- What stands beneath an even number of negations stays, and so does what is no negation. -/
theorem hasSubformula_of_mem_occurrences (mem : (n, ψ) ∈ occurrences k φ)
    (stays : Even n ∨ ψ.reduce.connective ≠ .negation) :
    (neg^[k] φ).reduce.hasSubformula ψ.reduce = true := by
  induction φ using induction_on_operands generalizing k with
  | step φ ih =>
    by_cases whole : (n, ψ) = (k, φ)
    · obtain ⟨rfl, rfl⟩ := Prod.mk.inj whole
      rw [reduce_iterate_neg]
      split
      · exact hasSubformula_self _
      next odd =>
        rw [opposite_eq_neg (stays.resolve_left odd)]
        exact hasSubformula_of_operand List.mem_cons_self (hasSubformula_self _)
    · by_cases head : φ.connective = .negation
      · obtain ⟨φ, rfl⟩ := connective_eq_negation.mp head
        rw [occurrences] at mem
        have deeper : (n, ψ) ∈ occurrences (k + 1) φ := (List.mem_cons.mp mem).resolve_left whole
        exact ih φ List.mem_cons_self deeper
      · rw [occurrences_of_ne_negation head] at mem
        have deeper := (List.mem_cons.mp mem).resolve_left whole
        obtain ⟨χ, operand, deeper⟩ := List.mem_flatMap.mp deeper
        apply hasSubformula_reduce_iterate_neg head
        have operand' : χ.reduce ∈ φ.reduce.operands := by
          rw [operands_reduce head]
          exact List.mem_map_of_mem operand
        exact hasSubformula_of_operand operand' (ih χ operand deeper)

/-- What a reduced formula contains, other than itself, stood in the formula beneath an even number
of negations, or else is no negation. -/
theorem exists_occurrence_of_hasSubformula
    (found : (neg^[k] φ).reduce.hasSubformula σ = true) :
    (neg^[k] φ).reduce = σ ∨
      ∃ n ψ, (n, ψ) ∈ occurrences k φ ∧ ψ.reduce = σ ∧
        (Even n ∨ σ.connective ≠ .negation) := by
  induction φ using induction_on_operands generalizing k with
  | step φ ih =>
    by_cases head : φ.connective = .negation
    · obtain ⟨φ, rfl⟩ := connective_eq_negation.mp head
      obtain whole | ⟨n, ψ, mem, rest⟩ := ih φ List.mem_cons_self (k := k + 1) found
      · exact .inl whole
      · refine .inr ⟨n, ψ, ?_, rest⟩
        rw [occurrences]
        exact List.mem_cons_of_mem _ mem
    · have head' : φ.reduce.connective ≠ .negation := by rwa [connective_reduce head]
      have inner : (neg^[k] φ).reduce = σ ∨ φ.reduce.hasSubformula σ = true := by
        rw [reduce_iterate_neg] at found ⊢
        split at found
        next even => exact .inr found
        next odd =>
          rw [if_neg odd]
          rw [opposite_eq_neg head'] at found ⊢
          simpa [operands] using hasSubformula_iff.mp found
      refine inner.imp_right fun inner => ?_
      rw [occurrences_of_ne_negation head]
      obtain rfl | ⟨χ', operand', deeper⟩ := hasSubformula_iff.mp inner
      · exact ⟨k, φ, List.mem_cons_self, rfl, .inr head'⟩
      · rw [operands_reduce head] at operand'
        obtain ⟨χ, operand, rfl⟩ := List.mem_map.mp operand'
        have within {p : Nat × Formula} (mem : p ∈ occurrences 0 χ) :
            p ∈ (k, φ) :: φ.operands.flatMap (occurrences 0) :=
          List.mem_cons_of_mem _ (List.mem_flatMap.mpr ⟨χ, operand, mem⟩)
        obtain whole | ⟨n, ψ, mem, rest⟩ := ih χ operand (k := 0) deeper
        · exact ⟨0, χ, within (mem_occurrences_self 0 χ), whole, .inl Even.zero⟩
        · exact ⟨n, ψ, within mem, rest⟩

/-- A formula contains another up to double negation when something that agrees with it occurs in
the formula and stays there: it stands beneath an even number of negations, or it is none itself. -/
theorem hasReducedSubformula_iff :
    φ.hasReducedSubformula ψ = true ↔
      ∃ n χ, (n, χ) ∈ occurrences 0 φ ∧ χ.agrees ψ = true ∧
        (Even n ∨ ψ.reduce.connective ≠ .negation) := by
  constructor
  · intro found
    obtain whole | ⟨n, χ, mem, same, stays⟩ := exists_occurrence_of_hasSubformula (k := 0) found
    · exact ⟨0, φ, mem_occurrences_self 0 φ, agrees_iff.mpr whole, .inl Even.zero⟩
    · exact ⟨n, χ, mem, agrees_iff.mpr same, stays⟩
  · intro h
    obtain ⟨n, χ, mem, same, stays⟩ := h
    rw [agrees_iff] at same
    rw [← same] at stays
    have found := hasSubformula_of_mem_occurrences mem stays
    rw [same] at found
    exact found

/-- What a formula contains it contains up to double negation too, with one exception: a negation,
once it is reduced, that stands beneath an odd number of negations wherever it occurs, in whatever
form agrees with it. -/
theorem lost_iff_of_hasSubformula (contained : φ.hasSubformula ψ = true) :
    φ.hasReducedSubformula ψ = false ↔
      ψ.reduce.connective = .negation ∧
        ∀ n χ, (n, χ) ∈ occurrences 0 φ → χ.agrees ψ = true → Odd n := by
  rw [← Bool.not_eq_true, hasReducedSubformula_iff]
  constructor
  · intro lost
    have odd (n : Nat) (χ : Formula) (mem : (n, χ) ∈ occurrences 0 φ)
        (same : χ.agrees ψ = true) : Odd n ∧ ψ.reduce.connective = .negation := by
      rw [← Nat.not_even_iff_odd]
      by_contra stays
      rw [not_and_or, not_not] at stays
      exact lost ⟨n, χ, mem, same, stays⟩
    obtain ⟨n, mem⟩ := (hasSubformula_iff_mem_occurrences 0).mp contained
    exact ⟨(odd n ψ mem (agrees_iff.mpr rfl)).2, fun n χ mem same => (odd n χ mem same).1⟩
  · intro exception found
    obtain ⟨negation, odd⟩ := exception
    obtain ⟨n, χ, mem, same, even | other⟩ := found
    · exact Nat.not_even_iff_odd.mpr (odd n χ mem same) even
    · exact other negation

/-- In `¬¬P ∧ ¬¬¬Q` the negation of `P` is lost, and that of `Q` is not: it stands beneath two
others. -/
theorem lost_beneath_one_negation :
    let φ : Formula := .conj [.neg (.neg (.atom "P")), .neg (.neg (.neg (.atom "Q")))]
    φ.hasSubformula (.neg (.atom "P")) = true ∧
      φ.hasReducedSubformula (.neg (.atom "P")) = false ∧
      φ.hasSubformula (.neg (.atom "Q")) = true ∧
      φ.hasReducedSubformula (.neg (.atom "Q")) ≠ false := by
  intro φ
  have containsP : φ.hasSubformula (.neg (.atom "P")) = true := by decide
  have containsQ : φ.hasSubformula (.neg (.atom "Q")) = true := by decide
  have oddP : ∀ o ∈ φ.occurrences 0, o.2.agrees (.neg (.atom "P")) = true → Odd o.1 := by decide
  have evenQ : (2, Formula.neg (.atom "Q")) ∈ φ.occurrences 0 := by decide
  refine ⟨containsP, ?_, containsQ, ?_⟩
  · exact (lost_iff_of_hasSubformula containsP).mpr ⟨by decide, fun n χ => oddP (n, χ)⟩
  · intro lost
    have odd := ((lost_iff_of_hasSubformula containsQ).mp lost).2 2 _ evenQ (by decide)
    exact absurd odd (by decide)

/-- `¬¬P` contains `¬P`, and does not contain it up to double negation. -/
theorem loses_lower_negation :
    ¬∀ φ ψ : Formula, φ.WellFormed → ψ.WellFormed →
      φ.hasSubformula ψ = true → φ.hasReducedSubformula ψ = true := by
  intro keeps
  have kept := keeps (.neg (.neg (.atom "P"))) (.neg (.atom "P")) (.neg (.neg (.atom (by decide))))
    (.neg (.atom (by decide))) (by decide)
  exact absurd kept (by decide)

end NaturalDeduction.Formula
