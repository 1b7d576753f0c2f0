import NaturalDeduction.Rule.Diagnostic

/-!
# Checking premises in any order

Some rules do not care in which order their premises are cited. Their check is written for one
arrangement and tried on every one: it accepts the arrangement, says that this is not the order it
is for, or rejects it with a reason.

`anyOrder` accepts as soon as one arrangement is accepted. Failing that it reports the reasons: the
only one if all have the same text, a list of the distinct ones otherwise, and a reason of its own
when no arrangement was in the right order.
-/

namespace NaturalDeduction

variable {α : Type}

/-- Every way of taking one element out of a list, from left to right, with the rest of the list. -/
def picks : List α → List (α × List α)
  | [] => []
  | a :: as => (a, as) :: (picks as).map fun (b, bs) => (b, a :: bs)

/-- What is taken out stands somewhere in the list, and the rest is what stands before and after
it. -/
theorem mem_picks {as rest : List α} {a : α} :
    (a, rest) ∈ picks as ↔ ∃ front back, as = front ++ a :: back ∧ rest = front ++ back := by
  induction as generalizing rest with
  | nil =>
    refine iff_of_false nofun fun h => ?_
    obtain ⟨front, back, same, -⟩ := h
    cases front <;> cases same
  | cons b as ih =>
    simp only [picks, List.mem_cons, List.mem_map, Prod.exists, Prod.mk.injEq]
    constructor
    · intro h
      rcases h with ⟨rfl, rfl⟩ | ⟨_, bs, inside, rfl, rfl⟩
      · exact ⟨[], _, rfl, rfl⟩
      · obtain ⟨front, back, rfl, rfl⟩ := ih.mp inside
        exact ⟨b :: front, back, rfl, rfl⟩
    · intro h
      obtain ⟨front, back, same, rfl⟩ := h
      cases front with
      | nil =>
        cases same
        exact .inl ⟨rfl, rfl⟩
      | cons _ front =>
        cases same
        exact .inr ⟨a, front ++ back, ih.mpr ⟨front, back, rfl, rfl⟩, rfl, rfl⟩

/-- Every way of taking `n` elements out of a list one after the other. -/
def arrangementsOf : Nat → List α → List (List α)
  | 0, _ => [[]]
  | n + 1, as => (picks as).flatMap fun (a, rest) => (arrangementsOf n rest).map (a :: ·)

/-- Every arrangement of a list, in lexicographic order of the positions. -/
def arrangements (as : List α) : List (List α) := arrangementsOf as.length as

example : arrangements [1, 2, 3] =
    [[1, 2, 3], [1, 3, 2], [2, 1, 3], [2, 3, 1], [3, 1, 2], [3, 2, 1]] := by decide

/-- What a check says of one arrangement of the premises. -/
inductive Outcome
  | valid
  | wrongOrder
  | rejected (why : Diagnostic)
  deriving DecidableEq

namespace Outcome

/-- What is reported when no arrangement was accepted, given the reasons in the order found. -/
def report (fallthrough : Diagnostic) : List Diagnostic → Diagnostic
  | [] => fallthrough
  | d :: ds => if ds.all (·.message = d.message) then d else .anyOf (d :: ds)

variable {m : Type → Type} [Monad m]

/-- Runs a check on arrangements until one is accepted; `found` holds the reasons so far. -/
def firstValid (check : List Formula → m Outcome) (fallthrough : Diagnostic) :
    List (List Formula) → List Diagnostic → m (Option Diagnostic)
  | [], found => pure (some (report fallthrough found))
  | φs :: rest, found => do
    match ← check φs with
    | valid => pure none
    | wrongOrder => firstValid check fallthrough rest found
    | rejected why => firstValid check fallthrough rest (found ++ [why])

end Outcome

/-- Runs a check on every arrangement of the formulas; `none` means that one was accepted. -/
def anyOrder {m : Type → Type} [Monad m] (check : List Formula → m Outcome)
    (fallthrough : Diagnostic) (φs : List Formula) : m (Option Diagnostic) :=
  Outcome.firstValid check fallthrough (arrangements φs) []

end NaturalDeduction
