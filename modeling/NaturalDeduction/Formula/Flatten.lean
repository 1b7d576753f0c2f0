import NaturalDeduction.Formula.Basic

/-!
# Flattening nested junctions

`Formula.flatten` merges a conjunction that is an operand of a conjunction into it, and likewise for
disjunctions, at every depth: `(A ∧ B) ∧ C` becomes `A ∧ B ∧ C`. The order of the operands stays and
none is dropped.
-/

namespace NaturalDeduction.Formula

/-- The operands that a formula contributes to a junction of a given kind: its own operands when it
is such a junction, else itself. -/
def parts (j : Junction) : Formula → List Formula
  | .junction k φs => if k = j then φs else [.junction k φs]
  | φ => [φ]

mutual

/-- The formula with nested junctions of one kind merged. -/
def flatten : Formula → Formula
  | .atom n => .atom n
  | .neg φ => .neg φ.flatten
  | .junction j φs => .junction j (flattenParts j φs)
  | .imp φ ψ => .imp φ.flatten ψ.flatten
  | .iff φ ψ => .iff φ.flatten ψ.flatten

/-- What the flattened operands contribute to a junction of a given kind. -/
def flattenParts (j : Junction) : List Formula → List Formula
  | [] => []
  | φ :: φs => φ.flatten.parts j ++ flattenParts j φs

end

/-- A junction contributes its operands to one of its kind. -/
theorem parts_junction (j : Junction) (φs : List Formula) : (junction j φs).parts j = φs :=
  if_pos rfl

/-- A formula contributes its operands, or else itself. -/
theorem parts_cases (j : Junction) (φ : Formula) :
    (∃ φs, φ = .junction j φs ∧ φ.parts j = φs) ∨ φ.parts j = [φ] := by
  cases φ with
  | junction k φs =>
    by_cases same : k = j
    · subst same
      exact .inl ⟨φs, rfl, parts_junction k φs⟩
    · exact .inr (if_neg same)
  | _ => exact .inr rfl

theorem flattenParts_eq_flatMap (j : Junction) (φs : List Formula) :
    flattenParts j φs = φs.flatMap fun φ => φ.flatten.parts j := by
  induction φs with
  | nil => rfl
  | cons φ φs ih => simp [flattenParts, ih]

/-- A flattened junction consists of what its flattened operands contribute to it. -/
theorem flatten_junction (j : Junction) (φs : List Formula) :
    (junction j φs).flatten = .junction j (φs.flatMap fun φ => φ.flatten.parts j) := by
  rw [flatten, flattenParts_eq_flatMap]

end NaturalDeduction.Formula
