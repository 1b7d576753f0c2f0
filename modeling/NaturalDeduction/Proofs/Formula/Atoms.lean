import Mathlib.Data.List.Basic
import NaturalDeduction.Proofs.Formula.WellFormed

/-!
# The atoms of a formula

`Formula.atoms` lists the atoms of a formula from left to right, each as often as it occurs. Taking
double negations away and flattening leave the list as it is, so formulas that agree list the same
atoms.

A well-formed formula has an atom. So the operands of a well-formed junction, of which there are two
or more, each have fewer atoms than the junction: whatever counts more atoms than the junction is
none of them, however they are flattened and reduced.
-/

namespace NaturalDeduction.Formula

mutual

/-- The names of the atoms of a formula, from left to right, each as often as it occurs. -/
def atoms : Formula → List String
  | .atom n => [n]
  | .neg φ => atoms φ
  | .junction _ φs => atomsOfAll φs
  | .imp φ ψ => atoms φ ++ atoms ψ
  | .iff φ ψ => atoms φ ++ atoms ψ

/-- The names of the atoms of several formulas. -/
def atomsOfAll : List Formula → List String
  | [] => []
  | φ :: φs => atoms φ ++ atomsOfAll φs

end

theorem atomsOfAll_eq_flatMap (φs : List Formula) : atomsOfAll φs = φs.flatMap atoms := by
  induction φs with
  | nil => rfl
  | cons φ φs ih => simp [atomsOfAll, ih]

/-- The atoms of a formula that is no atom are those of its operands, from left to right. -/
theorem atoms_eq_flatMap_operands {φ : Formula} (compound : ∀ n, φ ≠ .atom n) :
    φ.atoms = φ.operands.flatMap atoms := by
  cases φ with
  | atom n => exact absurd rfl (compound n)
  | junction j φs => simp [atoms, operands, atomsOfAll_eq_flatMap]
  | _ => simp [atoms, operands]

variable {φ ψ : Formula} {j : Junction} {φs : List Formula}

theorem atoms_junction (j : Junction) (φs : List Formula) :
    (junction j φs).atoms = φs.flatMap atoms := by
  rw [atoms, atomsOfAll_eq_flatMap]

/-! ## What leaves the atoms as they are -/

/-- Reduction takes away negations and nothing else. -/
theorem atoms_reduce (φ : Formula) : φ.reduce.atoms = φ.atoms := by
  induction φ using induction_by_negations with
  | atom n => rfl
  | cancel φ ih => rw [reduce, ih, atoms, atoms]
  | neg φ head ih => rw [reduce_neg_of_ne head, atoms, atoms, ih]
  | junction j φs ih =>
    rw [reduce_junction, atoms_junction, atoms_junction, List.flatMap_map]
    exact List.flatMap_congr ih
  | imp φ ψ ihφ ihψ => rw [reduce, atoms, atoms, ihφ, ihψ]
  | iff φ ψ ihφ ihψ => rw [reduce, atoms, atoms, ihφ, ihψ]

/-- Formulas that agree up to double negation have the same atoms in the same order. -/
theorem atoms_eq_of_agrees (agrees : φ.agrees ψ = true) : φ.atoms = ψ.atoms := by
  rw [← atoms_reduce φ, agrees_iff.mp agrees, atoms_reduce]

/-- A formula contributes all its atoms to a junction. -/
theorem flatMap_atoms_parts (φ : Formula) (j : Junction) : (φ.parts j).flatMap atoms = φ.atoms := by
  obtain ⟨φs, rfl, own⟩ | single := parts_cases j φ
  · rw [own, atoms_junction]
  · rw [single, List.flatMap_singleton]

/-- Flattening moves brackets and keeps the atoms, with their order and repetitions. -/
theorem atoms_flatten (φ : Formula) : φ.flatten.atoms = φ.atoms := by
  induction φ using Formula.induction with
  | atom n => rfl
  | neg φ ih => rw [flatten, atoms, atoms, ih]
  | junction j φs ih =>
    rw [flatten_junction, atoms_junction, atoms_junction, List.flatMap_assoc]
    refine List.flatMap_congr fun φ mem => ?_
    rw [flatMap_atoms_parts, ih φ mem]
  | imp φ ψ ihφ ihψ => rw [flatten, atoms, atoms, ihφ, ihψ]
  | iff φ ψ ihφ ihψ => rw [flatten, atoms, atoms, ihφ, ihψ]

/-! ## How many atoms there are -/

/-- Formulas that have an atom each have as many atoms as they are, or more. -/
theorem length_le_flatMap_atoms (named : ∀ φ ∈ φs, 1 ≤ φ.atoms.length) :
    φs.length ≤ (φs.flatMap atoms).length := by
  induction φs with
  | nil => exact Nat.le_refl 0
  | cons φ φs ih =>
    have head := named φ List.mem_cons_self
    have tail := ih fun ψ mem => named ψ (List.mem_cons_of_mem φ mem)
    rw [List.flatMap_cons, List.length_append, List.length_cons]
    omega

/-- Every formula that is well formed has an atom in it. -/
theorem WellFormed.one_le_length_atoms (wf : φ.WellFormed) : 1 ≤ φ.atoms.length := by
  induction wf with
  | atom => exact Nat.le_refl 1
  | neg _ ih => exact ih
  | junction two _ ih =>
    rw [atoms_junction]
    exact Nat.le_trans (Nat.le_of_succ_le two) (length_le_flatMap_atoms ih)
  | imp _ _ ihφ _ =>
    rw [atoms, List.length_append]
    exact Nat.le_add_right_of_le ihφ
  | iff _ _ ihφ _ =>
    rw [atoms, List.length_append]
    exact Nat.le_add_right_of_le ihφ

/-- Beside an operand of a well-formed junction there is another one, which has an atom too. -/
theorem WellFormed.length_atoms_lt (wf : (Formula.junction j φs).WellFormed) (mem : φ ∈ φs) :
    φ.atoms.length < (Formula.junction j φs).atoms.length := by
  obtain ⟨two, each⟩ := wf.of_junction
  have named : ∀ ψ ∈ φs, 1 ≤ ψ.atoms.length := fun ψ mem => (each ψ mem).one_le_length_atoms
  obtain ⟨front, back, rfl⟩ := List.append_of_mem mem
  obtain ⟨namedFront, -, namedBack⟩ :=
    (List.forall_mem_append.mp named).imp_right List.forall_mem_cons.mp
  have before := length_le_flatMap_atoms namedFront
  have after := length_le_flatMap_atoms namedBack
  rw [atoms_junction, List.flatMap_append, List.flatMap_cons]
  simp only [List.length_append, List.length_cons] at two ⊢
  omega

/-- An operand of a well-formed formula has fewer atoms than the formula, if it is not the only
operand. -/
theorem WellFormed.length_atoms_lt_of_mem_operands (wf : φ.WellFormed) (two : 2 ≤ φ.operands.length)
    (mem : ψ ∈ φ.operands) : ψ.atoms.length < φ.atoms.length := by
  cases wf with
  | atom => cases mem
  | neg => cases Nat.le_of_succ_le_succ two
  | junction two each => exact (WellFormed.junction two each).length_atoms_lt mem
  | imp wfφ wfψ =>
    have left := wfφ.one_le_length_atoms
    have right := wfψ.one_le_length_atoms
    rw [atoms, List.length_append]
    rcases List.mem_pair.mp mem with rfl | rfl
    · omega
    · omega
  | iff wfφ wfψ =>
    have left := wfφ.one_le_length_atoms
    have right := wfψ.one_le_length_atoms
    rw [atoms, List.length_append]
    rcases List.mem_pair.mp mem with rfl | rfl
    · omega
    · omega

/-- What a formula contributes to a junction has no more atoms than the formula. -/
theorem length_atoms_le_of_mem_parts (mem : ψ ∈ φ.parts j) :
    ψ.atoms.length ≤ φ.atoms.length := by
  obtain ⟨front, back, split⟩ := List.append_of_mem mem
  rw [← flatMap_atoms_parts φ j, split, List.flatMap_append, List.flatMap_cons]
  simp only [List.length_append]
  omega

end NaturalDeduction.Formula
