import Mathlib.Data.List.Forall2
import NaturalDeduction.Proofs.Formula.Atoms
import NaturalDeduction.Proofs.Formula.Flattening

/-!
# The congruences that reduction and flattening decide

A congruence is an equivalence of formulas that every connective carries from the operands to the
formula. `Formula.Congruent` is the least one in which a given rule holds. There are two rules here:
`¬¬φ` is `φ`, and a junction that is an operand of one of its kind may give way to its operands.
Reduction decides the congruence of the one, flattening that of the other: the outcome is the same
for two formulas exactly when they are congruent.

From left to right this is because a formula is congruent to its outcome, and from right to left
because having the same outcome is itself a congruence in which the rule holds. The congruences do
not ask for well-formed formulas, but they relate these to each other only, so that what lies
between two of them in a derivation is well formed as well.
-/

namespace NaturalDeduction.Formula

variable {rule same : Formula → Formula → Prop} {φ ψ χ : Formula} {j : Junction}
  {φs ψs : List Formula}

/-! ## Congruences -/

/-- An equivalence of formulas that every connective carries from the operands, place by place, to
the formula. -/
structure IsCongruence (same : Formula → Formula → Prop) : Prop extends Equivalence same where
  neg {φ ψ : Formula} : same φ ψ → same (.neg φ) (.neg ψ)
  junction (j : Junction) {φs ψs : List Formula} :
    List.Forall₂ same φs ψs → same (.junction j φs) (.junction j ψs)
  imp {φ φ' ψ ψ' : Formula} : same φ φ' → same ψ ψ' → same (.imp φ ψ) (.imp φ' ψ')
  iff {φ φ' ψ ψ' : Formula} : same φ φ' → same ψ ψ' → same (.iff φ ψ) (.iff φ' ψ')

/-- The least congruence in which a rule holds. -/
inductive Congruent (rule : Formula → Formula → Prop) : Formula → Formula → Prop
  | of_rule {φ ψ : Formula} : rule φ ψ → Congruent rule φ ψ
  | refl (φ : Formula) : Congruent rule φ φ
  | symm {φ ψ : Formula} : Congruent rule φ ψ → Congruent rule ψ φ
  | trans {φ ψ χ : Formula} : Congruent rule φ ψ → Congruent rule ψ χ → Congruent rule φ χ
  | neg {φ ψ : Formula} : Congruent rule φ ψ → Congruent rule (.neg φ) (.neg ψ)
  | junction (j : Junction) {φs ψs : List Formula} :
      List.Forall₂ (Congruent rule) φs ψs → Congruent rule (.junction j φs) (.junction j ψs)
  | imp {φ φ' ψ ψ' : Formula} :
      Congruent rule φ φ' → Congruent rule ψ ψ' → Congruent rule (.imp φ ψ) (.imp φ' ψ')
  | iff {φ φ' ψ ψ' : Formula} :
      Congruent rule φ φ' → Congruent rule ψ ψ' → Congruent rule (.iff φ ψ) (.iff φ' ψ')

namespace Congruent

theorem isCongruence (rule : Formula → Formula → Prop) : IsCongruence (Congruent rule) where
  refl := refl
  symm := symm
  trans := trans
  neg := neg
  junction := junction
  imp := imp
  iff := iff

/-- Every congruence in which the rule holds relates what is congruent by the rule. -/
theorem least (congruence : IsCongruence same) (holds : ∀ φ ψ, rule φ ψ → same φ ψ)
    (congruent : Congruent rule φ ψ) : same φ ψ := by
  induction congruent using Congruent.rec
    (motive_2 := fun φs ψs _ => List.Forall₂ same φs ψs) with
  | of_rule step => exact holds _ _ step
  | refl φ => exact congruence.refl φ
  | symm _ ih => exact congruence.symm ih
  | trans _ _ ih ih' => exact congruence.trans ih ih'
  | neg _ ih => exact congruence.neg ih
  | junction j _ ih => exact congruence.junction j ih
  | imp _ _ ih ih' => exact congruence.imp ih ih'
  | iff _ _ ih ih' => exact congruence.iff ih ih'
  | nil => exact .nil
  | cons _ _ ih ihs => exact .cons ih ihs

/-- Formulas are congruent by a rule when every congruence in which the rule holds relates them. -/
theorem congruent_iff : Congruent rule φ ψ ↔
    ∀ same, IsCongruence same → (∀ φ ψ, rule φ ψ → same φ ψ) → same φ ψ := by
  constructor
  · intro congruent same congruence holds
    exact congruent.least congruence holds
  · intro related
    exact related (Congruent rule) (isCongruence rule) fun _ _ => .of_rule

/-- A junction is congruent to that of formulas which its operands are congruent to. -/
theorem junction_map (j : Junction) {f : Formula → Formula}
    (each : ∀ φ ∈ φs, Congruent rule φ (f φ)) :
    Congruent rule (.junction j φs) (.junction j (φs.map f)) := by
  apply junction j
  rw [List.forall₂_map_right_iff, List.forall₂_same]
  exact each

end Congruent

/-- Having the same value is a congruence if the value of a formula depends on those of its operands
alone. -/
theorem isCongruence_of_values {α : Type} {f : Formula → α}
    (neg : ∀ {φ ψ}, f φ = f ψ → f (.neg φ) = f (.neg ψ))
    (junction : ∀ {j φs ψs}, φs.map f = ψs.map f → f (.junction j φs) = f (.junction j ψs))
    (imp : ∀ {φ φ' ψ ψ'}, f φ = f φ' → f ψ = f ψ' → f (.imp φ ψ) = f (.imp φ' ψ'))
    (iff : ∀ {φ φ' ψ ψ'}, f φ = f φ' → f ψ = f ψ' → f (.iff φ ψ) = f (.iff φ' ψ')) :
    IsCongruence fun φ ψ => f φ = f ψ where
  refl _ := rfl
  symm := Eq.symm
  trans := Eq.trans
  neg := neg
  junction _ _ _ each := by
    apply junction
    rwa [← List.forall₂_eq_eq_eq, List.forall₂_map_left_iff, List.forall₂_map_right_iff]
  imp := imp
  iff := iff

section Decision

variable {f : Formula → Formula} {Normal : Formula → Prop}

/-- A form of formulas that is the same for congruent formulas, and congruent to the formula that it
is the form of, decides the congruence. -/
theorem eq_iff_congruent (sound : Congruent rule φ ψ → f φ = f ψ) (here : Congruent rule φ (f φ))
    (there : Congruent rule ψ (f ψ)) : f φ = f ψ ↔ Congruent rule φ ψ := by
  refine ⟨fun same => ?_, sound⟩
  rw [← same] at there
  exact here.trans there.symm

/-- If it leaves the normal formulas as they are, it is the one normal formula that is congruent to
the formula. -/
theorem congruent_and_normal_iff (sound : ∀ {χ}, Congruent rule φ χ → f φ = f χ)
    (here : Congruent rule φ (f φ)) (normal : Normal (f φ)) (fixed : ∀ {χ}, Normal χ → f χ = χ) :
    Congruent rule φ χ ∧ Normal χ ↔ χ = f φ := by
  constructor
  · intro h
    calc χ
      _ = f χ := (fixed h.2).symm
      _ = f φ := (sound h.1).symm
  · rintro rfl
    exact ⟨here, normal⟩

end Decision

/-! ## Congruent formulas are well formed alike -/

/-- To be well formed or not alike is a congruence. -/
theorem isCongruence_isWellFormed :
    IsCongruence fun φ ψ => φ.isWellFormed = ψ.isWellFormed := by
  apply isCongruence_of_values
  · intro φ ψ same
    rwa [isWellFormed, isWellFormed]
  · intro j φs ψs same
    have length : φs.length = ψs.length := by
      simpa only [List.length_map] using congrArg List.length same
    have all (φs : List Formula) : φs.all isWellFormed = (φs.map isWellFormed).all id := by
      rw [List.all_map, Function.id_comp]
    simp only [isWellFormed, allWellFormed_eq_all, all, length, same]
  · intro φ φ' ψ ψ' left right
    rw [isWellFormed, isWellFormed, left, right]
  · intro φ φ' ψ ψ' left right
    rw [isWellFormed, isWellFormed, left, right]

/-- If a rule relates well-formed formulas to well-formed ones only, so does its congruence. -/
theorem Congruent.wellFormed (holds : ∀ φ ψ, rule φ ψ → φ.isWellFormed = ψ.isWellFormed)
    (congruent : Congruent rule φ ψ) (wf : φ.WellFormed) : ψ.WellFormed := by
  have alike : φ.isWellFormed = ψ.isWellFormed := congruent.least isCongruence_isWellFormed holds
  rwa [← isWellFormed_iff, ← alike, isWellFormed_iff]

/-! ## Double negations -/

/-- The rule that `¬¬φ` is `φ`. -/
inductive DoubleNegation : Formula → Formula → Prop
  | cancel (φ : Formula) : DoubleNegation (.neg (.neg φ)) φ

/-- To have the same reduced form is a congruence. -/
theorem isCongruence_reduce : IsCongruence fun φ ψ => φ.reduce = ψ.reduce := by
  apply isCongruence_of_values
  · intro φ ψ same
    rw [reduce_neg, reduce_neg, same]
  · intro j φs ψs same
    rw [reduce_junction, reduce_junction, same]
  · intro φ φ' ψ ψ' left right
    rw [reduce, reduce, left, right]
  · intro φ φ' ψ ψ' left right
    rw [reduce, reduce, left, right]

/-- The rule of double negation leaves the reduced form as it is, wherever in a formula it is
applied. -/
theorem reduce_eq_of_congruent (congruent : Congruent DoubleNegation φ ψ) :
    φ.reduce = ψ.reduce := by
  have holds (φ ψ : Formula) (step : DoubleNegation φ ψ) : φ.reduce = ψ.reduce := by
    cases step with
    | cancel ψ => rw [reduce]
  exact (congruent.least isCongruence_reduce holds :)

/-- What denies a formula in one step is its negation, by the rule of double negation at most. -/
theorem congruent_opposite (φ : Formula) : Congruent DoubleNegation (.neg φ) φ.opposite := by
  cases φ with
  | neg φ => exact .of_rule (.cancel φ)
  | _ => exact .refl _

/-- A formula can be brought into its reduced form by the rule of double negation. -/
theorem congruent_reduce (φ : Formula) : Congruent DoubleNegation φ φ.reduce := by
  induction φ using Formula.induction with
  | atom n => exact .refl _
  | neg φ ih =>
    rw [reduce_neg]
    exact ih.neg.trans (congruent_opposite φ.reduce)
  | junction j φs ih =>
    rw [reduce_junction]
    exact Congruent.junction_map j ih
  | imp φ ψ ihφ ihψ =>
    rw [reduce]
    exact ihφ.imp ihψ
  | iff φ ψ ihφ ihψ =>
    rw [reduce]
    exact ihφ.iff ihψ

theorem DoubleNegation.isWellFormed_eq (step : DoubleNegation φ ψ) :
    φ.isWellFormed = ψ.isWellFormed := by
  cases step with
  | cancel ψ => rw [isWellFormed, isWellFormed]

/-- Formulas agree up to double negation exactly when they are congruent by the rule of double
negation. Reducing a well-formed formula never fails, and makes of it the one reduced formula among
those congruent to it, which are all well formed. -/
theorem reduction_decides_double_negation (wf : φ.WellFormed) (ψ : Formula) :
    (φ.agrees ψ = true ↔ Congruent DoubleNegation φ ψ) ∧
      φ.reduceAnew = .ok φ.reduce ∧ φ.reduce.WellFormed ∧ φ.reduce.IsReduced ∧
      φ.reduce.reduce = φ.reduce ∧
      (∀ χ, Congruent DoubleNegation φ χ → χ.WellFormed) ∧
      ∀ χ, Congruent DoubleNegation φ χ ∧ χ.IsReduced ↔ χ = φ.reduce := by
  have reduced := isReduced_reduce φ
  have here := congruent_reduce φ
  refine ⟨?_, reduceAnew_eq_ok wf, wf.reduce, reduced, reduced.reduce_eq, ?_, ?_⟩
  · rw [agrees_iff]
    exact eq_iff_congruent reduce_eq_of_congruent here (congruent_reduce ψ)
  · intro χ congruent
    exact congruent.wellFormed (fun _ _ => DoubleNegation.isWellFormed_eq) wf
  · intro χ
    exact congruent_and_normal_iff reduce_eq_of_congruent here reduced IsReduced.reduce_eq

/-- Reduced, `¬¬¬(P ∧ ¬¬¬Q)` is `¬(P ∧ ¬Q)`, and no other reduced formula is congruent to it. Its
negation is not congruent to it either. -/
theorem reduction_decides_double_negation_of_odd_chains :
    let φ : Formula :=
      .neg (.neg (.neg (.conj [.atom "P", .neg (.neg (.neg (.atom "Q")))])))
    φ.WellFormed ∧ Congruent DoubleNegation φ (.neg (.conj [.atom "P", .neg (.atom "Q")])) ∧
      ¬Congruent DoubleNegation φ (.neg φ) ∧
      ∀ χ, Congruent DoubleNegation φ χ ∧ χ.IsReduced ↔
        χ = .neg (.conj [.atom "P", .neg (.atom "Q")]) := by
  intro φ
  have wf : φ.WellFormed := by decide
  have decides := reduction_decides_double_negation wf
  have outcome : φ.reduce = .neg (.conj [.atom "P", .neg (.atom "Q")]) := by decide
  refine ⟨wf, (decides _).1.mp (by decide), fun opposite => ?_, fun χ => ?_⟩
  · have agrees := (decides _).1.mpr opposite
    exact absurd agrees (by decide)
  · rw [← outcome]
    exact (decides φ).2.2.2.2.2.2 χ

/-! ## Nested junctions -/

/-- The rule that a junction, beside others among the operands of one of its kind, gives way to its
own operands. -/
inductive Regrouping : Formula → Formula → Prop
  | merge {j : Junction} {front inner back : List Formula} :
      2 ≤ inner.length → front ++ back ≠ [] →
        Regrouping (.junction j (front ++ .junction j inner :: back))
          (.junction j (front ++ inner ++ back))

/-- To have the same flattened form is a congruence. -/
theorem isCongruence_flatten : IsCongruence fun φ ψ => φ.flatten = ψ.flatten := by
  apply isCongruence_of_values
  · intro φ ψ same
    rw [flatten, flatten, same]
  · intro j φs ψs same
    have parts (φs : List Formula) : φs.flatMap (fun φ => φ.flatten.parts j) =
        (φs.map flatten).flatMap (parts j) := (List.flatMap_map ..).symm
    rw [flatten_junction, flatten_junction, parts, parts, same]
  · intro φ φ' ψ ψ' left right
    rw [flatten, flatten, left, right]
  · intro φ φ' ψ ψ' left right
    rw [flatten, flatten, left, right]

/-- The rule of regrouping leaves the flattened form as it is, wherever in a formula it is
applied. -/
theorem flatten_eq_of_congruent (congruent : Congruent Regrouping φ ψ) :
    φ.flatten = ψ.flatten := by
  have holds (φ ψ : Formula) (step : Regrouping φ ψ) : φ.flatten = ψ.flatten := by
    cases step with
    | merge =>
      simp only [flatten_junction, List.flatMap_append, List.flatMap_cons, parts_junction,
        List.append_assoc]
  exact (congruent.least isCongruence_flatten holds :)

/-- An operand of a junction may give way to what it contributes, if there is another operand. -/
theorem congruent_parts {front back : List Formula} (wf : φ.WellFormed)
    (others : front ++ back ≠ []) :
    Congruent Regrouping (.junction j (front ++ φ :: back))
      (.junction j (front ++ φ.parts j ++ back)) := by
  obtain ⟨φs, rfl, own⟩ | single := parts_cases j φ
  · rw [own]
    exact .of_rule (.merge wf.of_junction.1 others)
  · rw [single, List.append_assoc, List.singleton_append]
    exact .refl _

/-- All operands after the first ones may give way to what they contribute. -/
theorem congruent_flatMap_parts (wf : ∀ φ ∈ φs, φ.WellFormed) (front : List Formula)
    (two : 2 ≤ (front ++ φs).length) :
    Congruent Regrouping (.junction j (front ++ φs))
      (.junction j (front ++ φs.flatMap (parts j))) := by
  induction φs generalizing front with
  | nil => exact .refl _
  | cons φ φs ih =>
    have wfφ : φ.WellFormed := wf φ List.mem_cons_self
    have own : 1 ≤ (φ.parts j).length := wfφ.parts_length_pos j
    simp only [List.length_append, List.length_cons] at two
    have others : front ++ φs ≠ [] := by
      rw [← List.length_pos_iff, List.length_append]
      omega
    -- The parts of the first operand go to those in front.
    have enough : 2 ≤ (front ++ φ.parts j ++ φs).length := by
      simp only [List.length_append]
      omega
    have rest := ih (fun ψ mem => wf ψ (List.mem_cons_of_mem φ mem)) (front ++ φ.parts j) enough
    rw [List.flatMap_cons, ← List.append_assoc]
    exact (congruent_parts wfφ others).trans rest

/-- A well-formed formula can be flattened by the rule of regrouping. -/
theorem congruent_flatten (wf : φ.WellFormed) : Congruent Regrouping φ φ.flatten := by
  induction wf with
  | atom => exact .refl _
  | neg _ ih =>
    rw [flatten]
    exact ih.neg
  | @junction j φs two each ih =>
    have flat : ∀ φ ∈ φs.map flatten, φ.WellFormed := by
      rw [List.forall_mem_map]
      exact fun φ mem => (each φ mem).flatten
    have merged := congruent_flatMap_parts (j := j) flat [] (by simpa using two)
    rw [flatten_junction, ← List.flatMap_map]
    exact (Congruent.junction_map j ih).trans merged
  | imp _ _ ihφ ihψ =>
    rw [flatten]
    exact ihφ.imp ihψ
  | iff _ _ ihφ ihψ =>
    rw [flatten]
    exact ihφ.iff ihψ

/-- Regrouping needs and leaves two operands or more. -/
theorem Regrouping.isWellFormed_eq (step : Regrouping φ ψ) :
    φ.isWellFormed = ψ.isWellFormed := by
  cases step with
  | @merge j front inner back two others =>
    have other : 1 ≤ front.length + back.length := by
      rw [← List.length_append]
      exact List.length_pos_iff.mpr others
    rw [Bool.eq_iff_iff, isWellFormed_iff, isWellFormed_iff]
    simp only [WellFormed.junction_iff, List.forall_mem_append, List.forall_mem_cons,
      List.length_append, List.length_cons]
    constructor
    · rintro ⟨-, wfFront, ⟨-, wfInner⟩, wfBack⟩
      exact ⟨by omega, ⟨wfFront, wfInner⟩, wfBack⟩
    · rintro ⟨-, ⟨wfFront, wfInner⟩, wfBack⟩
      exact ⟨by omega, wfFront, ⟨two, wfInner⟩, wfBack⟩

/-- Well-formed formulas flatten to the same formula exactly when they are congruent by the rule of
regrouping. Flattening a well-formed formula never fails, keeps its atoms from left to right, and
makes of it the one flat formula among those congruent to it, which are all well formed. -/
theorem flattening_decides_regrouping (wfφ : φ.WellFormed) (wfψ : ψ.WellFormed) :
    (φ.flatten = ψ.flatten ↔ Congruent Regrouping φ ψ) ∧
      φ.flattenAnew = .ok φ.flatten ∧ φ.flatten.WellFormed ∧ φ.flatten.IsFlat ∧
      φ.flatten.atoms = φ.atoms ∧ φ.flatten.flatten = φ.flatten ∧
      (∀ χ, Congruent Regrouping φ χ → χ.WellFormed) ∧
      ∀ χ, Congruent Regrouping φ χ ∧ χ.IsFlat ↔ χ = φ.flatten := by
  have flat := isFlat_flatten φ
  have here := congruent_flatten wfφ
  refine ⟨?_, flattenAnew_eq_ok wfφ, wfφ.flatten, flat, atoms_flatten φ, flat.flatten_eq, ?_, ?_⟩
  · exact eq_iff_congruent flatten_eq_of_congruent here (congruent_flatten wfψ)
  · intro χ congruent
    exact congruent.wellFormed (fun _ _ => Regrouping.isWellFormed_eq) wfφ
  · intro χ
    exact congruent_and_normal_iff flatten_eq_of_congruent here flat IsFlat.flatten_eq

/-- `((P ∨ Q) ∨ R) → S ∧ (T ∧ S)` may be regrouped to `(P ∨ (Q ∨ R)) → (S ∧ T) ∧ S`, and to no
formula in which `P` and `Q` have changed places. -/
theorem flattening_decides_regrouping_of_both_kinds :
    let right : Formula := .conj [.atom "S", .conj [.atom "T", .atom "S"]]
    let φ : Formula := .imp (.disj [.disj [.atom "P", .atom "Q"], .atom "R"]) right
    let ψ : Formula := .imp (.disj [.atom "P", .disj [.atom "Q", .atom "R"]])
      (.conj [.conj [.atom "S", .atom "T"], .atom "S"])
    φ.WellFormed ∧ ψ.WellFormed ∧ Congruent Regrouping φ ψ ∧ φ.flatten.flatten = ψ.flatten ∧
      ¬Congruent Regrouping φ (.imp (.disj [.atom "Q", .atom "P", .atom "R"]) right) := by
  intro right φ ψ
  have wfφ : φ.WellFormed := by decide
  have wfψ : ψ.WellFormed := by decide
  have congruent : Congruent Regrouping φ ψ :=
    (flattening_decides_regrouping wfφ wfψ).1.mp (by decide)
  refine ⟨wfφ, wfψ, congruent, by decide, fun swapped => ?_⟩
  have same := (flattening_decides_regrouping wfφ (by decide)).1.mpr swapped
  exact absurd same (by decide)

end NaturalDeduction.Formula
