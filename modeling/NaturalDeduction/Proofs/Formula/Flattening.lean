import Mathlib.Data.List.Basic
import NaturalDeduction.Formula.Flatten
import NaturalDeduction.Proofs.Formula.Reduction
import NaturalDeduction.Proofs.Formula.WellFormed

/-!
# What flattening makes of a formula

The operands of a flattened junction are its innermost operands, each flattened in turn: what is
reached through junctions of its kind and is none itself. So a formula that is nested in a junction
stands among the flattened operands only when it is no such junction and is flat already.

`Formula.Nests` says what is nested in a junction, level by level, and `Formula.IsFlat` that no
junction is an operand of one of its kind. Neither knows of flattening, which leaves a formula as it
is exactly when it is flat. Taking double negations away does not make up for anything else.
-/

namespace NaturalDeduction

theorem Junction.connective_inj {j k : Junction} : j.connective = k.connective ↔ j = k := by
  cases j <;> cases k <;> decide

namespace Formula

variable {j : Junction} {φ ψ χ : Formula} {φs ψs : List Formula}

theorem connective_eq_junction : φ.connective = j.connective ↔ ∃ φs, φ = .junction j φs := by
  constructor
  · intro head
    cases φ with
    | junction k φs => exact ⟨φs, by rw [Junction.connective_inj.mp head]⟩
    | _ => cases j <;> cases head
  · intro h
    obtain ⟨φs, rfl⟩ := h
    rfl

/-- An operand is smaller than its junction. -/
theorem sizeOf_lt_junction (mem : φ ∈ φs) : sizeOf φ < sizeOf (junction j φs) := by
  have within := List.sizeOf_lt_of_mem mem
  rw [junction.sizeOf_spec]
  omega

/-! ## What is nested in a junction -/

/-- The second formula is an operand of the first, or of an operand of it, and so on, with nothing
but junctions of one kind in between. -/
inductive Nests (j : Junction) : Formula → Formula → Prop
  | operand {φs : List Formula} {φ : Formula} : φ ∈ φs → Nests j (.junction j φs) φ
  | inner {φs : List Formula} {φ ψ : Formula} :
      φ ∈ φs → Nests j φ ψ → Nests j (.junction j φs) ψ

/-- What is nested in a junction is an operand of it, or nested in one. -/
theorem nests_junction_iff : (junction j φs).Nests j χ ↔ ∃ φ ∈ φs, φ = χ ∨ φ.Nests j χ := by
  constructor
  · intro nested
    cases nested with
    | operand mem => exact ⟨χ, mem, .inl rfl⟩
    | inner mem nested => exact ⟨_, mem, .inr nested⟩
  · intro h
    obtain ⟨φ, mem, rfl | nested⟩ := h
    · exact .operand mem
    · exact .inner mem nested

namespace Nests

/-- Only a junction has anything nested in it. -/
theorem connective_eq (nested : φ.Nests j ψ) : φ.connective = j.connective := by
  cases nested <;> rfl

/-- Nesting goes on through what is nested. -/
theorem trans (nested : φ.Nests j ψ) (deeper : ψ.Nests j χ) : φ.Nests j χ := by
  induction nested with
  | operand mem => exact .inner mem deeper
  | inner mem _ ih => exact .inner mem (ih deeper)

/-- Taking double negations away never makes up for a level of nesting. -/
theorem sizeOf_reduce_lt (nested : φ.Nests j ψ) : sizeOf ψ.reduce < sizeOf φ.reduce := by
  induction nested with
  | operand mem =>
    rw [reduce_junction]
    exact sizeOf_lt_junction (List.mem_map_of_mem mem)
  | inner mem _ ih =>
    rw [reduce_junction]
    exact Nat.lt_trans ih (sizeOf_lt_junction (List.mem_map_of_mem mem))

end Nests

/-! ## The operands of a flattened junction -/

/-- Flattening keeps the connective. -/
theorem connective_flatten (φ : Formula) : φ.flatten.connective = φ.connective := by
  cases φ <;> simp only [flatten, connective]

theorem flattenParts_append (j : Junction) (φs ψs : List Formula) :
    flattenParts j (φs ++ ψs) = flattenParts j φs ++ flattenParts j ψs := by
  simp only [flattenParts_eq_flatMap, List.flatMap_append]

/-- Anything but a junction of the kind contributes itself. -/
theorem parts_eq_singleton (other : φ.connective ≠ j.connective) : φ.parts j = [φ] := by
  cases φ with
  | junction k φs =>
    have differ : k ≠ j := fun same => other (Junction.connective_inj.mpr same)
    exact if_neg differ
  | _ => rfl

/-- The operands of a flattened junction are what it would contribute to one of its kind. -/
theorem operands_flatten_eq_parts (j : Junction) (φs : List Formula) :
    (junction j φs).flatten.operands = (junction j φs).flatten.parts j := by
  rw [flatten_junction, parts_junction, operands]

/-- A formula that is not of the kind contributes itself, flattened. -/
theorem mem_parts_flatten_of_ne (other : φ.connective ≠ j.connective) :
    ψ ∈ φ.flatten.parts j ↔
      ∃ χ, (φ = χ ∨ φ.Nests j χ) ∧ χ.connective ≠ j.connective ∧ χ.flatten = ψ := by
  have head : φ.flatten.connective ≠ j.connective := by rwa [connective_flatten]
  rw [parts_eq_singleton head, List.mem_singleton]
  constructor
  · intro same
    exact ⟨φ, .inl rfl, other, same.symm⟩
  · intro h
    obtain ⟨χ, rfl | nested, -, rfl⟩ := h
    · rfl
    · exact absurd nested.connective_eq other

/-- What a flattened formula contributes to a junction is what is innermost in the formula, each
flattened. -/
theorem mem_parts_flatten_iff :
    ψ ∈ φ.flatten.parts j ↔
      ∃ χ, (φ = χ ∨ φ.Nests j χ) ∧ χ.connective ≠ j.connective ∧ χ.flatten = ψ := by
  induction φ using Formula.induction with
  | junction k φs ih =>
    by_cases same : k = j
    · subst same
      rw [flatten_junction, parts_junction, List.mem_flatMap]
      constructor
      · intro h
        obtain ⟨φ, mem, inside⟩ := h
        obtain ⟨χ, reached, head, flat⟩ := (ih φ mem).mp inside
        exact ⟨χ, .inr (nests_junction_iff.mpr ⟨φ, mem, reached⟩), head, flat⟩
      · intro h
        obtain ⟨χ, rfl | nested, head, flat⟩ := h
        · exact absurd rfl head
        · obtain ⟨φ, mem, reached⟩ := nests_junction_iff.mp nested
          exact ⟨φ, mem, (ih φ mem).mpr ⟨χ, reached, head, flat⟩⟩
    · exact mem_parts_flatten_of_ne fun head => same (Junction.connective_inj.mp head)
  | _ => exact mem_parts_flatten_of_ne (by cases j <;> exact nofun)

/-- The operands of a flattened junction are the innermost of its nested operands, each
flattened. -/
theorem mem_operands_flatten_iff :
    ψ ∈ (junction j φs).flatten.operands ↔
      ∃ χ, (junction j φs).Nests j χ ∧ χ.connective ≠ j.connective ∧ χ.flatten = ψ := by
  rw [operands_flatten_eq_parts, mem_parts_flatten_iff]
  constructor
  · intro h
    obtain ⟨χ, rfl | nested, head, flat⟩ := h
    · exact absurd rfl head
    · exact ⟨χ, nested, head, flat⟩
  · intro h
    obtain ⟨χ, nested, head, flat⟩ := h
    exact ⟨χ, .inr nested, head, flat⟩

/-- Where no operand is a junction of the same kind, the operands are flattened one by one. -/
theorem flatten_junction_eq_map (apart : ∀ φ ∈ φs, φ.connective ≠ j.connective) :
    (junction j φs).flatten = .junction j (φs.map flatten) := by
  rw [flatten_junction, ← List.flatMap_pure_eq_map]
  apply congrArg
  apply List.flatMap_congr
  intro φ mem
  have head : φ.flatten.connective ≠ j.connective := by
    rw [connective_flatten]
    exact apart φ mem
  exact parts_eq_singleton head

/-- A junction nested in one of its kind contributes all its flattened operands to it. -/
theorem Nests.operands_flatten_subset (nested : (junction j φs).Nests j (junction j ψs)) :
    (junction j ψs).flatten.operands ⊆ (junction j φs).flatten.operands := by
  intro χ mem
  obtain ⟨ω, deeper, head, flat⟩ := mem_operands_flatten_iff.mp mem
  exact mem_operands_flatten_iff.mpr ⟨ω, nested.trans deeper, head, flat⟩

/-! ## Flat formulas -/

/-- No junction in the formula, however deep, has an operand of its own kind. -/
inductive IsFlat : Formula → Prop
  | atom (n : String) : IsFlat (.atom n)
  | neg {φ : Formula} : IsFlat φ → IsFlat (.neg φ)
  | junction {j : Junction} {φs : List Formula} :
      (∀ φ ∈ φs, φ.connective ≠ j.connective) → (∀ φ ∈ φs, IsFlat φ) → IsFlat (.junction j φs)
  | imp {φ ψ : Formula} : IsFlat φ → IsFlat ψ → IsFlat (.imp φ ψ)
  | iff {φ ψ : Formula} : IsFlat φ → IsFlat ψ → IsFlat (.iff φ ψ)

namespace IsFlat

/-- Flattening leaves a flat formula as it is. -/
theorem flatten_eq (flat : φ.IsFlat) : φ.flatten = φ := by
  induction flat with
  | atom n => rfl
  | neg _ ih => rw [flatten, ih]
  | @junction j φs apart _ ih =>
    rw [flatten_junction_eq_map apart, List.map_congr_left ih]
    exact congrArg _ (List.map_id φs)
  | imp _ _ ihφ ihψ => rw [flatten, ihφ, ihψ]
  | iff _ _ ihφ ihψ => rw [flatten, ihφ, ihψ]

/-- What a flat formula contributes to a junction is flat. -/
theorem of_mem_parts (flat : φ.IsFlat) (mem : ψ ∈ φ.parts j) : ψ.IsFlat := by
  obtain ⟨φs, rfl, own⟩ | single := parts_cases j φ
  · rw [own] at mem
    cases flat with
    | junction _ each => exact each ψ mem
  · rw [single, List.mem_singleton] at mem
    exact mem ▸ flat

end IsFlat

/-- What comes of flattening is flat. -/
theorem isFlat_flatten (φ : Formula) : φ.flatten.IsFlat := by
  induction φ using Formula.induction with
  | atom n => exact .atom n
  | neg φ ih => exact .neg ih
  | junction j φs ih =>
    rw [flatten_junction]
    constructor
    · intro ψ mem
      obtain ⟨φ, -, inside⟩ := List.mem_flatMap.mp mem
      obtain ⟨χ, -, head, rfl⟩ := mem_parts_flatten_iff.mp inside
      rwa [connective_flatten]
    · intro ψ mem
      obtain ⟨φ, inside, part⟩ := List.mem_flatMap.mp mem
      exact (ih φ inside).of_mem_parts part
  | imp φ ψ ihφ ihψ => exact .imp ihφ ihψ
  | iff φ ψ ihφ ihψ => exact .iff ihφ ihψ

/-- Flattening leaves a formula as it is when the formula is flat. -/
theorem flatten_eq_self_iff : φ.flatten = φ ↔ φ.IsFlat :=
  ⟨fun same => same ▸ isFlat_flatten φ, IsFlat.flatten_eq⟩

instance : DecidablePred IsFlat := fun _ => decidable_of_iff _ flatten_eq_self_iff

example : ¬(Formula.imp (.conj [.conj [.atom "P", .atom "Q"], .atom "R"]) (.atom "S")).IsFlat := by
  decide

/-- A nested formula is found among the flattened operands when it is innermost and flat. -/
theorem Nests.mem_operands_flatten_iff (nested : (junction j φs).Nests j ψ) :
    ψ ∈ (junction j φs).flatten.operands ↔ ψ.connective ≠ j.connective ∧ ψ.IsFlat := by
  rw [Formula.mem_operands_flatten_iff]
  constructor
  · intro h
    obtain ⟨χ, -, head, rfl⟩ := h
    exact ⟨by rwa [connective_flatten], isFlat_flatten χ⟩
  · intro h
    exact ⟨ψ, nested, h.1, h.2.flatten_eq⟩

/-- A well-formed junction contributes two operands or more to one of its kind. -/
theorem WellFormed.two_le_parts_flatten (wf : φ.WellFormed) (head : φ.connective = j.connective) :
    2 ≤ (φ.flatten.parts j).length := by
  obtain ⟨φs, rfl⟩ := connective_eq_junction.mp head
  rw [← operands_flatten_eq_parts]
  exact wf.flatten.of_junction.1

/-- If flattening leaves the number of operands as it is, none of them is a junction of the kind. -/
theorem connective_ne_of_length_flattenParts_le (wf : ∀ φ ∈ φs, φ.WellFormed)
    (count : (flattenParts j φs).length ≤ φs.length) : ∀ φ ∈ φs, φ.connective ≠ j.connective := by
  induction φs with
  | nil => exact List.forall_mem_nil _
  | cons φ φs ih =>
    have wfφ : φ.WellFormed := wf φ List.mem_cons_self
    have wfs : ∀ ψ ∈ φs, ψ.WellFormed := fun ψ mem => wf ψ (List.mem_cons_of_mem φ mem)
    have own := wfφ.flatten.parts_length_pos j
    have others := length_le_flattenParts (j := j) fun ψ mem => (wfs ψ mem).flatten
    simp only [flattenParts, List.length_append, List.length_cons] at count
    refine List.forall_mem_cons.mpr ⟨fun head => ?_, ih wfs (by omega)⟩
    have two := wfφ.two_le_parts_flatten head
    omega

/-- Flattening changes nothing but double negations only where it changes nothing at all. -/
theorem agrees_flatten_iff (wf : φ.WellFormed) : φ.flatten.agrees φ = true ↔ φ.IsFlat := by
  refine ⟨fun agrees => ?_, fun flat => by rw [flat.flatten_eq, agrees_iff]⟩
  induction wf with
  | atom => exact .atom _
  | neg _ ih => exact .neg (ih (agrees_neg_iff.mp agrees))
  | @junction j φs _ wfs ih =>
    rw [agrees_iff, flatten, reduce_junction, reduce_junction] at agrees
    have same := (junction.inj agrees).2
    have count : (flattenParts j φs).length = φs.length := by
      simpa only [List.length_map] using congrArg List.length same
    have apart := connective_ne_of_length_flattenParts_le wfs (Nat.le_of_eq count)
    refine .junction apart fun φ mem => ih φ mem ?_
    have one_by_one : flattenParts j φs = φs.map flatten :=
      (junction.inj (flatten_junction_eq_map apart)).2
    rw [one_by_one, List.map_map] at same
    exact agrees_iff.mpr (List.map_inj_left.mp same φ mem)
  | imp _ _ ihφ ihψ =>
    simp only [agrees_iff, flatten, reduce, imp.injEq] at agrees
    exact .imp (ihφ (agrees_iff.mpr agrees.1)) (ihψ (agrees_iff.mpr agrees.2))
  | iff _ _ ihφ ihψ =>
    simp only [agrees_iff, flatten, reduce, iff.injEq] at agrees
    exact .iff (ihφ (agrees_iff.mpr agrees.1)) (ihψ (agrees_iff.mpr agrees.2))

end Formula

end NaturalDeduction
