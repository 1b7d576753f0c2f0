import NaturalDeduction.Connective

/-!
# Formulas

Propositional formulas with conjunctions and disjunctions of any width. The two share a constructor,
`Formula.junction`, since everything done to their operands is done alike; `Formula.conj` and
`Formula.disj` name its two uses.

The type itself does not ask for non-empty atom names or for two operands to a junction. A formula
that has both throughout is `Formula.WellFormed`. Equality of formulas is strict: the order and the
grouping of operands count.
-/

namespace NaturalDeduction

/-- The two connectives that join any number of operands. -/
inductive Junction
  | conj
  | disj
  deriving DecidableEq, Repr

/-- The connective that a junction is. -/
def Junction.connective : Junction → Connective
  | conj => .conjunction
  | disj => .disjunction

/-- A propositional formula. -/
inductive Formula
  | atom (name : String)
  | neg (φ : Formula)
  | junction (j : Junction) (operands : List Formula)
  | imp (φ ψ : Formula)
  | iff (φ ψ : Formula)

namespace Formula

/-- The conjunction of several formulas. -/
@[match_pattern] abbrev conj (operands : List Formula) : Formula := .junction .conj operands

/-- The disjunction of several formulas. -/
@[match_pattern] abbrev disj (operands : List Formula) : Formula := .junction .disj operands

instance : Inhabited Formula := ⟨.atom ""⟩

/-! ## Strict equality is decidable -/

mutual

/-- Decides whether two formulas are the same. -/
def decEq : (φ ψ : Formula) → Decidable (φ = ψ)
  | .atom m, .atom n =>
    if h : m = n then isTrue (h ▸ rfl) else isFalse fun e => h (Formula.atom.inj e)
  | .neg φ, .neg ψ =>
    match decEq φ ψ with
    | isTrue h => isTrue (h ▸ rfl)
    | isFalse h => isFalse fun e => h (Formula.neg.inj e)
  | .junction j φs, .junction k ψs =>
    if hj : j = k then
      match decEqAll φs ψs with
      | isTrue h => isTrue (hj ▸ h ▸ rfl)
      | isFalse h => isFalse fun e => h (Formula.junction.inj e).2
    else isFalse fun e => hj (Formula.junction.inj e).1
  | .imp φ φ', .imp ψ ψ' =>
    match decEq φ ψ, decEq φ' ψ' with
    | isTrue h, isTrue h' => isTrue (h ▸ h' ▸ rfl)
    | isFalse h, _ => isFalse fun e => h (Formula.imp.inj e).1
    | _, isFalse h' => isFalse fun e => h' (Formula.imp.inj e).2
  | .iff φ φ', .iff ψ ψ' =>
    match decEq φ ψ, decEq φ' ψ' with
    | isTrue h, isTrue h' => isTrue (h ▸ h' ▸ rfl)
    | isFalse h, _ => isFalse fun e => h (Formula.iff.inj e).1
    | _, isFalse h' => isFalse fun e => h' (Formula.iff.inj e).2
  | .atom _, .neg _ | .atom _, .junction _ _ | .atom _, .imp _ _ | .atom _, .iff _ _
  | .neg _, .atom _ | .neg _, .junction _ _ | .neg _, .imp _ _ | .neg _, .iff _ _
  | .junction _ _, .atom _ | .junction _ _, .neg _ | .junction _ _, .imp _ _
  | .junction _ _, .iff _ _ | .imp _ _, .atom _ | .imp _ _, .neg _ | .imp _ _, .junction _ _
  | .imp _ _, .iff _ _ | .iff _ _, .atom _ | .iff _ _, .neg _ | .iff _ _, .junction _ _
  | .iff _ _, .imp _ _ => isFalse nofun

/-- Decides whether two lists of formulas are the same. -/
def decEqAll : (φs ψs : List Formula) → Decidable (φs = ψs)
  | [], [] => isTrue rfl
  | φ :: φs, ψ :: ψs =>
    match decEq φ ψ, decEqAll φs ψs with
    | isTrue h, isTrue h' => isTrue (h ▸ h' ▸ rfl)
    | isFalse h, _ => isFalse fun e => h (List.cons.inj e).1
    | _, isFalse h' => isFalse fun e => h' (List.cons.inj e).2
  | [], _ :: _ | _ :: _, [] => isFalse nofun

end

instance : DecidableEq Formula := decEq

/-! ## Heads and operands -/

/-- The head of a formula. -/
def connective : Formula → Connective
  | .atom _ => .atom
  | .neg _ => .negation
  | .junction j _ => j.connective
  | .imp _ _ => .conditional
  | .iff _ _ => .biconditional

/-- The immediate operands, from left to right. -/
def operands : Formula → List Formula
  | .atom _ => []
  | .neg φ => [φ]
  | .junction _ φs => φs
  | .imp φ ψ => [φ, ψ]
  | .iff φ ψ => [φ, ψ]

/-- Whether the formula is an atom. -/
def isAtom (φ : Formula) : Bool := φ.connective == .atom

/-- A negation is told by its connective, and so are the others below. -/
theorem connective_eq_negation {φ : Formula} : φ.connective = .negation ↔ ∃ ψ, φ = .neg ψ := by
  cases φ with
  | junction j φs => cases j <;> simp [connective, Junction.connective]
  | _ => simp [connective]

theorem connective_eq_disjunction {φ : Formula} :
    φ.connective = .disjunction ↔ ∃ φs, φ = .disj φs := by
  cases φ with
  | junction j φs => cases j <;> simp [connective, Junction.connective]
  | _ => simp [connective]

theorem connective_eq_conditional {φ : Formula} :
    φ.connective = .conditional ↔ ∃ a b, φ = .imp a b := by
  cases φ with
  | junction j φs => cases j <;> simp [connective, Junction.connective]
  | _ => simp [connective]

theorem connective_eq_biconditional {φ : Formula} :
    φ.connective = .biconditional ↔ ∃ l r, φ = .iff l r := by
  cases φ with
  | junction j φs => cases j <;> simp [connective, Junction.connective]
  | _ => simp [connective]

/-! ## Well-formed formulas -/

/-- Every atom is named and every junction joins at least two operands. -/
inductive WellFormed : Formula → Prop
  | atom {name : String} : name ≠ "" → WellFormed (.atom name)
  | neg {φ : Formula} : WellFormed φ → WellFormed (.neg φ)
  | junction {j : Junction} {φs : List Formula} :
      2 ≤ φs.length → (∀ φ ∈ φs, WellFormed φ) → WellFormed (.junction j φs)
  | imp {φ ψ : Formula} : WellFormed φ → WellFormed ψ → WellFormed (.imp φ ψ)
  | iff {φ ψ : Formula} : WellFormed φ → WellFormed ψ → WellFormed (.iff φ ψ)

/-- A statement holds of every formula if it passes from the operands to the formula. -/
theorem induction {P : Formula → Prop} (atom : ∀ n, P (.atom n)) (neg : ∀ φ, P φ → P (.neg φ))
    (junction : ∀ j φs, (∀ φ ∈ φs, P φ) → P (.junction j φs))
    (imp : ∀ φ ψ, P φ → P ψ → P (.imp φ ψ)) (iff : ∀ φ ψ, P φ → P ψ → P (.iff φ ψ)) :
    ∀ φ, P φ :=
  Formula.rec (motive_1 := P) (motive_2 := fun φs => ∀ φ ∈ φs, P φ) atom neg junction imp iff nofun
    fun _ _ hφ hφs _ h => by
      rcases List.mem_cons.1 h with rfl | h
      · exact hφ
      · exact hφs _ h

end Formula

end NaturalDeduction
