import NaturalDeduction.Formula.DoubleNegation
import NaturalDeduction.Formula.Flatten
import NaturalDeduction.Premise

/-!
# What formulas mean

Under a valuation of the atoms every formula is true or false, connective by connective. Reduction
and flattening rearrange a formula and keep its meaning, so rules that compare formulas after
either of them compare formulas that mean the same.

A subproof says that its assumptions lead to its conclusion, and nothing of either by itself.
-/

namespace NaturalDeduction

/-- Which atoms are true. -/
abbrev Valuation := String → Bool

/-- What a junction makes of the truth values of its operands. -/
def Junction.combine : Junction → List Bool → Bool
  | conj => fun bs => bs.all id
  | disj => fun bs => bs.any id

/-- A junction of one operand means what the operand means. -/
theorem Junction.combine_singleton (j : Junction) (b : Bool) : j.combine [b] = b := by
  cases j with
  | conj => exact Bool.and_true b
  | disj => exact Bool.or_false b

/-- Operands may be combined group by group. -/
theorem Junction.combine_flatMap {α : Type} (j : Junction) (f : α → List Bool) (as : List α) :
    j.combine (as.flatMap f) = j.combine (as.map fun a => j.combine (f a)) := by
  cases j with
  | conj => simp only [combine, List.all_flatMap, List.all_map, Function.comp_def, id]
  | disj => simp only [combine, List.any_flatMap, List.any_map, Function.comp_def, id]

namespace Formula

mutual

/-- Whether a formula is true. -/
def eval (v : Valuation) : Formula → Bool
  | .atom n => v n
  | .neg φ => !eval v φ
  | .junction j φs => j.combine (evalEach v φs)
  | .imp φ ψ => !eval v φ || eval v ψ
  | .iff φ ψ => eval v φ == eval v ψ

/-- Which of several formulas are true. -/
def evalEach (v : Valuation) : List Formula → List Bool
  | [] => []
  | φ :: φs => eval v φ :: evalEach v φs

end

variable {v : Valuation}

theorem evalEach_eq_map (φs : List Formula) : evalEach v φs = φs.map (eval v) := by
  induction φs with
  | nil => rfl
  | cons φ φs ih => simp only [evalEach, List.map_cons, ih]

@[simp] theorem eval_neg (φ : Formula) : eval v (.neg φ) = !eval v φ := by
  simp only [eval]

/-- The value of a junction is that of its operands, combined. -/
theorem eval_junction (j : Junction) (φs : List Formula) :
    eval v (.junction j φs) = j.combine (φs.map (eval v)) := by
  simp only [eval, evalEach_eq_map]

theorem eval_imp (φ ψ : Formula) : eval v (.imp φ ψ) = (!eval v φ || eval v ψ) := by
  simp only [eval]

theorem eval_iff (φ ψ : Formula) : eval v (.iff φ ψ) = (eval v φ == eval v ψ) := by
  simp only [eval]

/-- A conjunction is true when all its operands are. -/
theorem eval_conj_eq_true {φs : List Formula} :
    eval v (.conj φs) = true ↔ ∀ φ ∈ φs, eval v φ = true := by
  simp only [eval_junction, Junction.combine, List.all_map, Function.comp_def, id, List.all_eq_true]

/-- A disjunction is true when one of its operands is. -/
theorem eval_disj_eq_true {φs : List Formula} :
    eval v (.disj φs) = true ↔ ∃ φ ∈ φs, eval v φ = true := by
  simp only [eval_junction, Junction.combine, List.any_map, Function.comp_def, id, List.any_eq_true]

/-- A conditional holds when its consequent does as soon as its antecedent does. -/
theorem eval_imp_eq_true {φ ψ : Formula} :
    eval v (.imp φ ψ) = true ↔ (eval v φ = true → eval v ψ = true) := by
  rw [eval_imp]
  cases eval v φ <;> simp

/-- A biconditional holds when its sides have the same value. -/
theorem eval_iff_eq_true {φ ψ : Formula} :
    eval v (.iff φ ψ) = true ↔ eval v φ = eval v ψ := by
  rw [eval_iff, beq_iff_eq]

/-! ## Reduction and flattening keep the meaning -/

/-- Reduction keeps the meaning. -/
@[simp] theorem eval_reduce (φ : Formula) : eval v φ.reduce = eval v φ := by
  induction φ using induction_by_negations with
  | atom n => rfl
  | cancel φ ih => rw [reduce, ih, eval_neg, eval_neg, Bool.not_not]
  | neg φ head ih => rw [reduce_neg_of_ne head, eval_neg, eval_neg, ih]
  | junction j φs ih =>
    rw [reduce_junction, eval_junction, eval_junction, List.map_map]
    exact congrArg j.combine (List.map_congr_left ih)
  | imp φ ψ ihφ ihψ => rw [reduce, eval_imp, eval_imp, ihφ, ihψ]
  | iff φ ψ ihφ ihψ => rw [reduce, eval_iff, eval_iff, ihφ, ihψ]

/-- What a formula contributes to a junction means, joined, what the formula means. -/
theorem combine_parts (j : Junction) (φ : Formula) :
    j.combine ((φ.parts j).map (eval v)) = eval v φ := by
  obtain ⟨φs, rfl, own⟩ | single := parts_cases j φ
  · rw [own, eval_junction]
  · rw [single, List.map_singleton, Junction.combine_singleton]

/-- Flattening keeps the meaning. -/
@[simp] theorem eval_flatten (φ : Formula) : eval v φ.flatten = eval v φ := by
  induction φ using Formula.induction with
  | atom n => rfl
  | neg φ ih => simp only [flatten, eval_neg, ih]
  | junction j φs ih =>
    rw [flatten_junction, eval_junction, eval_junction, List.map_flatMap, Junction.combine_flatMap]
    refine congrArg j.combine (List.map_congr_left fun φ mem => ?_)
    rw [combine_parts, ih φ mem]
  | imp φ ψ ihφ ihψ => simp only [flatten, eval_imp, ihφ, ihψ]
  | iff φ ψ ihφ ihψ => simp only [flatten, eval_iff, ihφ, ihψ]

/-- Formulas that agree up to double negation mean the same. -/
theorem eval_eq_of_agrees {φ ψ : Formula} (h : φ.agrees ψ = true) : eval v φ = eval v ψ := by
  rw [← eval_reduce φ, ← eval_reduce ψ, agrees_iff.mp h]

/-- A flattened conjunction is true when all its operands are. -/
theorem eval_conj_eq_true_iff_flatten {φs : List Formula} :
    eval v (.conj φs) = true ↔ ∀ φ ∈ (Formula.conj φs).flatten.operands, eval v φ = true := by
  rw [← eval_flatten, flatten, operands, eval_conj_eq_true]

/-- A flattened disjunction is true when one of its operands is. -/
theorem eval_disj_eq_true_iff_flatten {φs : List Formula} :
    eval v (.disj φs) = true ↔ ∃ φ ∈ (Formula.disj φs).flatten.operands, eval v φ = true := by
  rw [← eval_flatten, flatten, operands, eval_disj_eq_true]

end Formula

/-- Whether what a premise says is the case: a plain premise says its formula, a subproof that its
conclusion is true if all its assumptions are. -/
def Premise.Holds (v : Valuation) : Premise → Prop
  | .plain φ => φ.eval v = true
  | .subproof assumptions ψ => (∀ φ ∈ assumptions, φ.eval v = true) → ψ.eval v = true

@[simp] theorem Premise.holds_plain {v : Valuation} {φ : Formula} :
    (Premise.plain φ).Holds v ↔ φ.eval v = true := Iff.rfl

/-- A subproof holds when its conclusion does as soon as its assumptions do. -/
@[simp] theorem Premise.holds_subproof {v : Valuation} {φs : List Formula} {ψ : Formula} :
    (Premise.subproof φs ψ).Holds v ↔ ((∀ φ ∈ φs, φ.eval v = true) → ψ.eval v = true) := Iff.rfl

end NaturalDeduction
