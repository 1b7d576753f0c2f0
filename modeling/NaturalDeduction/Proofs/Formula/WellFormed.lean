import NaturalDeduction.Formula.Build
import NaturalDeduction.Formula.DoubleNegation
import NaturalDeduction.Formula.Flatten

/-!
# Well-formed formulas stay well formed

Reduction and flattening put formulas together anew, and what they put together is well formed when
the formula was. `reduceAnew` and `flattenAnew` are the two with every node of the outcome built by
`Formula.build`, which refuses a node of the wrong arity: on a well-formed formula nothing is
refused, and the outcome is that of `reduce` and `flatten`.
-/

namespace NaturalDeduction.Formula

/-! ## What a well-formed formula is made of -/

namespace WellFormed

variable {φ ψ : Formula} {j : Junction} {φs : List Formula}

theorem of_neg (wf : (Formula.neg φ).WellFormed) : φ.WellFormed := by
  cases wf with
  | neg wf => exact wf

theorem of_imp (wf : (Formula.imp φ ψ).WellFormed) : φ.WellFormed ∧ ψ.WellFormed := by
  cases wf with
  | imp wfφ wfψ => exact ⟨wfφ, wfψ⟩

theorem of_iff (wf : (Formula.iff φ ψ).WellFormed) : φ.WellFormed ∧ ψ.WellFormed := by
  cases wf with
  | iff wfφ wfψ => exact ⟨wfφ, wfψ⟩

theorem of_junction (wf : (Formula.junction j φs).WellFormed) :
    2 ≤ φs.length ∧ ∀ φ ∈ φs, φ.WellFormed := by
  cases wf with
  | junction two each => exact ⟨two, each⟩

/-- A junction is well formed when it has two operands or more and they are well formed. -/
theorem junction_iff :
    (Formula.junction j φs).WellFormed ↔ 2 ≤ φs.length ∧ ∀ φ ∈ φs, φ.WellFormed :=
  ⟨of_junction, fun h => .junction h.1 h.2⟩

end WellFormed

/-! ## Well-formedness can be decided -/

mutual

/-- Whether a formula is well formed. -/
def isWellFormed : Formula → Bool
  | .atom n => n ≠ ""
  | .neg φ => isWellFormed φ
  | .junction _ φs => decide (2 ≤ φs.length) && allWellFormed φs
  | .imp φ ψ => isWellFormed φ && isWellFormed ψ
  | .iff φ ψ => isWellFormed φ && isWellFormed ψ

/-- Whether several formulas are all well formed. -/
def allWellFormed : List Formula → Bool
  | [] => true
  | φ :: φs => isWellFormed φ && allWellFormed φs

end

theorem allWellFormed_eq_all (φs : List Formula) : allWellFormed φs = φs.all isWellFormed := by
  induction φs with
  | nil => rfl
  | cons φ φs ih => rw [allWellFormed, ih, List.all_cons]

/-- The test decides what it means to be well formed. -/
theorem isWellFormed_iff {φ : Formula} : φ.isWellFormed = true ↔ φ.WellFormed := by
  induction φ using Formula.induction with
  | atom n =>
    rw [isWellFormed, decide_eq_true_iff]
    exact ⟨.atom, fun wf => by cases wf with | atom named => exact named⟩
  | neg φ ih =>
    rw [isWellFormed, ih]
    exact ⟨.neg, WellFormed.of_neg⟩
  | junction j φs ih =>
    rw [isWellFormed, Bool.and_eq_true, decide_eq_true_iff, allWellFormed_eq_all,
      List.all_eq_true, WellFormed.junction_iff]
    exact and_congr_right fun _ => forall₂_congr ih
  | imp φ ψ ihφ ihψ =>
    rw [isWellFormed, Bool.and_eq_true, ihφ, ihψ]
    exact ⟨fun h => .imp h.1 h.2, WellFormed.of_imp⟩
  | iff φ ψ ihφ ihψ =>
    rw [isWellFormed, Bool.and_eq_true, ihφ, ihψ]
    exact ⟨fun h => .iff h.1 h.2, WellFormed.of_iff⟩

instance : DecidablePred WellFormed := fun _ => decidable_of_iff _ isWellFormed_iff

example : (Formula.disj [.atom "P", .neg (.conj [.atom "Q", .atom "R"])]).WellFormed := by decide

/-! ## Building a node that has its arity -/

theorem mapM_formula? (φs : List Formula) :
    (φs.map Operand.formula).mapM Operand.formula? = .ok φs := by
  induction φs with
  | nil => rfl
  | cons φ φs ih =>
    simp only [List.map_cons, List.mapM_cons, ih]
    rfl

/-- A compound is built from as many operands as its connective accepts. -/
theorem build_eq_ok {c : Connective} {φs : List Formula} {ψ : Formula}
    (compound : c ≠ .atom) (count : c.accepts φs.length = true) (composed : compose? c φs = some ψ) :
    build c (φs.map .formula) none = .ok ψ := by
  simp only [build, if_neg compound, Option.isSome_none, Bool.false_eq_true, ↓reduceIte,
    List.length_map, count, Bool.not_true, mapM_formula?, composed]

/-- A junction is built when it joins two formulas or more. -/
theorem build_junction (j : Junction) {φs : List Formula} (two : 2 ≤ φs.length) :
    build j.connective (φs.map .formula) none = .ok (.junction j φs) := by
  obtain ⟨φ, ψ, rest, rfl⟩ : ∃ φ ψ rest, φs = φ :: ψ :: rest := by
    rcases φs with _ | ⟨φ, _ | ⟨ψ, rest⟩⟩
    · cases two
    · cases Nat.le_of_succ_le_succ two
    · exact ⟨φ, ψ, rest, rfl⟩
  have count : j.connective.accepts (φ :: ψ :: rest).length = true := by
    cases j <;> exact decide_eq_true (Int.ofNat_le.mpr two)
  cases j with
  | conj => exact build_eq_ok (by decide) count rfl
  | disj => exact build_eq_ok (by decide) count rfl

/-! ## Reduction and flattening, node by node -/

mutual

/-- Reduction with every node built anew. -/
def reduceAnew : Formula → Except ArityError Formula
  | .atom n => .ok (.atom n)
  | .neg (.neg φ) => φ.reduceAnew
  | .neg φ => do
    let reduced ← φ.reduceAnew
    build .negation [.formula reduced] none
  | .junction j φs => do
    let reduced ← reduceAllAnew φs
    build j.connective (reduced.map .formula) none
  | .imp φ ψ => do
    let left ← φ.reduceAnew
    let right ← ψ.reduceAnew
    build .conditional [.formula left, .formula right] none
  | .iff φ ψ => do
    let left ← φ.reduceAnew
    let right ← ψ.reduceAnew
    build .biconditional [.formula left, .formula right] none

/-- Reduction of several formulas with every node built anew. -/
def reduceAllAnew : List Formula → Except ArityError (List Formula)
  | [] => .ok []
  | φ :: φs => do
    let reduced ← φ.reduceAnew
    let rest ← reduceAllAnew φs
    .ok (reduced :: rest)

end

mutual

/-- Flattening with every node built anew. -/
def flattenAnew : Formula → Except ArityError Formula
  | .atom n => .ok (.atom n)
  | .neg φ => do
    let flat ← φ.flattenAnew
    build .negation [.formula flat] none
  | .junction j φs => do
    let parts ← flattenPartsAnew j φs
    build j.connective (parts.map .formula) none
  | .imp φ ψ => do
    let left ← φ.flattenAnew
    let right ← ψ.flattenAnew
    build .conditional [.formula left, .formula right] none
  | .iff φ ψ => do
    let left ← φ.flattenAnew
    let right ← ψ.flattenAnew
    build .biconditional [.formula left, .formula right] none

/-- What several formulas contribute to a junction, with every node of theirs built anew. -/
def flattenPartsAnew (j : Junction) : List Formula → Except ArityError (List Formula)
  | [] => .ok []
  | φ :: φs => do
    let flat ← φ.flattenAnew
    let rest ← flattenPartsAnew j φs
    .ok (flat.parts j ++ rest)

end

/-- Reduction keeps a formula well formed. -/
theorem WellFormed.reduce {φ : Formula} (wf : φ.WellFormed) : φ.reduce.WellFormed := by
  induction φ using induction_by_negations with
  | atom n => exact wf
  | cancel φ ih => exact ih wf.of_neg.of_neg
  | neg φ head ih =>
    rw [reduce_neg_of_ne head]
    exact .neg (ih wf.of_neg)
  | junction j φs ih =>
    obtain ⟨two, each⟩ := wf.of_junction
    rw [reduce_junction, junction_iff, List.length_map, List.forall_mem_map]
    exact ⟨two, fun φ mem => ih φ mem (each φ mem)⟩
  | imp φ ψ ihφ ihψ => exact .imp (ihφ wf.of_imp.1) (ihψ wf.of_imp.2)
  | iff φ ψ ihφ ihψ => exact .iff (ihφ wf.of_iff.1) (ihψ wf.of_iff.2)

/-- Operands are reduced anew one by one, and none fails if none does alone. -/
theorem reduceAllAnew_eq_ok {φs : List Formula} (each : ∀ φ ∈ φs, φ.reduceAnew = .ok φ.reduce) :
    reduceAllAnew φs = .ok (φs.map Formula.reduce) := by
  induction φs with
  | nil => rfl
  | cons φ φs ih =>
    obtain ⟨head, tail⟩ := List.forall_mem_cons.mp each
    rw [reduceAllAnew, head, ih tail]
    rfl

theorem reduceAnew_neg_of_ne {φ : Formula} (head : φ.connective ≠ .negation)
    (inner : φ.reduceAnew = .ok φ.reduce) : (neg φ).reduceAnew = .ok (.neg φ.reduce) := by
  cases φ with
  | neg φ => exact absurd rfl head
  | _ =>
    rw [reduceAnew, inner]
    · rfl
    · exact nofun

/-- Nothing is refused when a well-formed formula is reduced node by node. -/
theorem reduceAnew_eq_ok {φ : Formula} (wf : φ.WellFormed) : φ.reduceAnew = .ok φ.reduce := by
  induction φ using induction_by_negations with
  | atom n => rfl
  | cancel φ ih => rw [reduceAnew, ih wf.of_neg.of_neg, Formula.reduce]
  | neg φ head ih => rw [reduce_neg_of_ne head, reduceAnew_neg_of_ne head (ih wf.of_neg)]
  | junction j φs ih =>
    obtain ⟨two, each⟩ := wf.of_junction
    rw [reduceAnew, reduceAllAnew_eq_ok fun φ mem => ih φ mem (each φ mem), reduce_junction]
    exact build_junction j (by rwa [List.length_map])
  | imp φ ψ ihφ ihψ => rw [reduceAnew, ihφ wf.of_imp.1, ihψ wf.of_imp.2]; rfl
  | iff φ ψ ihφ ihψ => rw [reduceAnew, ihφ wf.of_iff.1, ihψ wf.of_iff.2]; rfl

/-- A well-formed formula contributes something to every junction. -/
theorem WellFormed.parts_length_pos {φ : Formula} (wf : φ.WellFormed) (j : Junction) :
    1 ≤ (φ.parts j).length := by
  obtain ⟨φs, rfl, own⟩ | single := parts_cases j φ
  · rw [own]
    exact Nat.le_of_succ_le wf.of_junction.1
  · rw [single]
    exact Nat.le_refl 1

/-- What a well-formed formula contributes to a junction is well formed. -/
theorem WellFormed.of_mem_parts {φ ψ : Formula} (wf : φ.WellFormed) {j : Junction}
    (mem : ψ ∈ φ.parts j) : ψ.WellFormed := by
  obtain ⟨φs, rfl, own⟩ | single := parts_cases j φ
  · rw [own] at mem
    exact wf.of_junction.2 ψ mem
  · rw [single] at mem
    exact List.mem_singleton.mp mem ▸ wf

/-- Formulas contribute at least as many parts to a junction as they are. -/
theorem length_le_flattenParts {j : Junction} {φs : List Formula}
    (wf : ∀ φ ∈ φs, φ.flatten.WellFormed) : φs.length ≤ (flattenParts j φs).length := by
  induction φs with
  | nil => exact Nat.le_refl 0
  | cons φ φs ih =>
    have head := (wf φ List.mem_cons_self).parts_length_pos j
    have tail := ih fun ψ mem => wf ψ (List.mem_cons_of_mem φ mem)
    simp only [flattenParts, List.length_append, List.length_cons]
    omega

/-- Flattening keeps a formula well formed. -/
theorem WellFormed.flatten {φ : Formula} (wf : φ.WellFormed) : φ.flatten.WellFormed := by
  induction wf with
  | atom named => exact .atom named
  | neg _ ih => exact .neg ih
  | @junction j φs two _ ih =>
    refine .junction (Nat.le_trans two (length_le_flattenParts ih)) fun ψ mem => ?_
    rw [flattenParts_eq_flatMap] at mem
    obtain ⟨φ, inside, part⟩ := List.mem_flatMap.mp mem
    exact (ih φ inside).of_mem_parts part
  | imp _ _ ihφ ihψ => exact .imp ihφ ihψ
  | iff _ _ ihφ ihψ => exact .iff ihφ ihψ

/-- What operands contribute is found anew if each of them can be flattened anew. -/
theorem flattenPartsAnew_eq_ok {j : Junction} {φs : List Formula}
    (each : ∀ φ ∈ φs, φ.flattenAnew = .ok φ.flatten) :
    flattenPartsAnew j φs = .ok (flattenParts j φs) := by
  induction φs with
  | nil => rfl
  | cons φ φs ih =>
    obtain ⟨head, tail⟩ := List.forall_mem_cons.mp each
    rw [flattenPartsAnew, head, ih tail]
    rfl

/-- Nothing is refused when a well-formed formula is flattened node by node. -/
theorem flattenAnew_eq_ok {φ : Formula} (wf : φ.WellFormed) : φ.flattenAnew = .ok φ.flatten := by
  induction wf with
  | atom named => rfl
  | neg _ ih => rw [flattenAnew, ih]; rfl
  | @junction j φs two each ih =>
    have flat : (junction j φs).flatten.WellFormed := (WellFormed.junction two each).flatten
    rw [flattenAnew, flattenPartsAnew_eq_ok ih]
    exact build_junction j flat.of_junction.1
  | imp _ _ ihφ ihψ => rw [flattenAnew, ihφ, ihψ]; rfl
  | iff _ _ ihφ ihψ => rw [flattenAnew, ihφ, ihψ]; rfl

end NaturalDeduction.Formula
