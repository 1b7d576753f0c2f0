import Mathlib.Data.List.Basic
import NaturalDeduction.Proofs.Rule.Shape

/-!
# Answers and acceptance

A check answers when it is not at a loss: it accepts the step, or rejects it for a cause that the
library has words for. A rule accepts a step when the step has the rule's shape and the check
accepts it, so each rule's own lemma about acceptance starts from plain formulas.
-/

namespace NaturalDeduction

/-! ## Pipelines that may fail -/

/-- A sequence of two stages succeeds when both do. -/
theorem bind_eq_ok {ε α β : Type} {x : Except ε α} {f : α → Except ε β} {b : β} :
    (x >>= f) = .ok b ↔ ∃ a, x = .ok a ∧ f a = .ok b := by
  cases x with
  | ok a =>
    constructor
    · exact fun h => ⟨a, rfl, h⟩
    · intro h
      obtain ⟨_, same, h⟩ := h
      cases same
      exact h
  | error e =>
    constructor
    · intro h; cases h
    · rintro ⟨_, h, _⟩; cases h

@[simp] theorem ok_bind {ε α β : Type} (a : α) (f : α → Except ε β) :
    (Except.ok a >>= f) = f a := rfl

/-- A pipeline over a list that never fails has an outcome. -/
theorem exists_mapM_eq_ok {ε α β : Type} {f : α → Except ε β} {as : List α}
    (h : ∀ a ∈ as, ∃ b, f a = .ok b) : ∃ bs, as.mapM f = .ok bs := by
  induction as with
  | nil => exact ⟨[], rfl⟩
  | cons a as ih =>
    obtain ⟨b, head⟩ := h a List.mem_cons_self
    obtain ⟨bs, tail⟩ := ih fun x mem => h x (List.mem_cons_of_mem a mem)
    exact ⟨b :: bs, by rw [List.mapM_cons, head, ok_bind, tail]; rfl⟩

/-- Its outcome holds what comes of each element, and nothing else. -/
theorem mem_of_mapM_eq_ok {ε α β : Type} {f : α → Except ε β} {as : List α} {bs : List β}
    (h : as.mapM f = .ok bs) :
    (∀ a ∈ as, ∃ b ∈ bs, f a = .ok b) ∧ ∀ b ∈ bs, ∃ a ∈ as, f a = .ok b := by
  induction as generalizing bs with
  | nil =>
    cases h
    exact ⟨nofun, nofun⟩
  | cons a as ih =>
    rw [List.mapM_cons] at h
    obtain ⟨b, head, h⟩ := bind_eq_ok.mp h
    obtain ⟨rest, tail, same⟩ := bind_eq_ok.mp h
    cases same
    obtain ⟨outward, inward⟩ := ih tail
    constructor
    · intro x mem
      rcases List.mem_cons.mp mem with rfl | mem
      · exact ⟨b, List.mem_cons_self, head⟩
      · obtain ⟨y, inside, came⟩ := outward x mem
        exact ⟨y, List.mem_cons_of_mem b inside, came⟩
    · intro y mem
      rcases List.mem_cons.mp mem with rfl | mem
      · exact ⟨a, List.mem_cons_self, head⟩
      · obtain ⟨x, inside, came⟩ := inward y mem
        exact ⟨x, List.mem_cons_of_mem a inside, came⟩

/-! ## Words -/

namespace Diagnostic

/-- The diagnostic is one of the causes that the library words itself. -/
def IsCause : Diagnostic → Prop
  | stated _ => False
  | _ => True

theorem isCause_absentFormula (φ : Formula) : (absentFormula φ).IsCause := trivial

private theorem append_ne_empty_left {s : String} (h : s ≠ "") (t : String) : s ++ t ≠ "" :=
  fun e => h (String.append_eq_empty_iff.mp e).1

private theorem append_ne_empty_right {t : String} (s : String) (h : t ≠ "") : s ++ t ≠ "" :=
  fun e => h (String.append_eq_empty_iff.mp e).2

/-- A cause is never without words. -/
theorem message_ne_empty {d : Diagnostic} (cause : d.IsCause) : d.message ≠ "" := by
  cases d with
  | stated text => exact cause.elim
  | oneOf reasons => exact append_ne_empty_left (by decide) _
  | premisesNotImplications => decide
  | conclusionNotImplication => decide
  | unchained first second => exact append_ne_empty_right _ (append_ne_empty_right _ (by decide))
  | wrongChainStart expected actual =>
    exact append_ne_empty_right _ (append_ne_empty_right _ (by decide))
  | wrongChainEnd expected actual =>
    exact append_ne_empty_right _ (append_ne_empty_right _ (by decide))
  | notNegatedAntecedent conclusion implication =>
    exact append_ne_empty_right _ (append_ne_empty_right _ (by decide))
  | antecedentNotAssumed antecedent assumption =>
    exact append_ne_empty_right _ (append_ne_empty_right _ (by decide))
  | consequentNotConcluded consequent conclusion =>
    exact append_ne_empty_right _ (append_ne_empty_right _ (by decide))
  -- Every other cause ends in words of its own, so what it says of formulas does not matter.
  | _ => exact append_ne_empty_right _ (by decide)

end Diagnostic

/-- A check is not at a loss, and rejects for a cause if it rejects. -/
def Answers (x : Except Misuse (Option Diagnostic)) : Prop :=
  ∃ answer, x = .ok answer ∧ ∀ why, answer = some why → why.IsCause

theorem Answers.accept : Answers (.ok none) := ⟨none, rfl, nofun⟩

theorem Answers.reject {why : Diagnostic} (cause : why.IsCause) : Answers (.ok (some why)) :=
  ⟨some why, rfl, fun _ same => Option.some.inj same ▸ cause⟩

/-- A check accepts exactly when something is the case, and is never at a loss. -/
structure Decides (x : Except Misuse (Option Diagnostic)) (P : Prop) : Prop where
  accepts : x = .ok none ↔ P
  answers : Answers x

/-- To accept decides what is the case. -/
theorem Decides.accept {P : Prop} (h : P) : Decides (.ok none) P :=
  ⟨iff_of_true rfl h, .accept⟩

/-- To reject for a cause decides what is not the case. -/
theorem Decides.reject {P : Prop} {why : Diagnostic} (cause : why.IsCause) (h : ¬P) :
    Decides (.ok (some why)) P :=
  ⟨iff_of_false nofun h, .reject cause⟩

/-! ## Checks made of smaller ones -/

section Combine

variable {α : Type} {P Q : Prop}

theorem Decides.congr {x : Except Misuse (Option Diagnostic)} (h : Decides x P) (same : P ↔ Q) :
    Decides x Q :=
  ⟨h.accepts.trans same, h.answers⟩

theorem Decides.isCause {why : Diagnostic} (h : Decides (.ok (some why)) P) : why.IsCause := by
  obtain ⟨answer, same, causes⟩ := h.answers
  cases same
  exact causes why rfl

/-- A check that rejects in one case and goes on in the other. -/
theorem Decides.guard {refuted : Prop} [Decidable refuted] {why : Diagnostic}
    {rest : Option Diagnostic} (cause : why.IsCause) (goesOn : ¬refuted → Decides (.ok rest) P) :
    Decides (.ok (if refuted then some why else rest)) (¬refuted ∧ P) := by
  by_cases h : refuted
  · rw [if_pos h]
    exact .reject cause fun both => both.1 h
  · rw [if_neg h]
    exact (goesOn h).congr (and_iff_right h).symm

/-- A second check that is asked when the first has accepted. -/
theorem Decides.orElse {x y : Option Diagnostic} (first : Decides (.ok x) P)
    (second : Decides (.ok y) Q) : Decides (.ok (x.orElse fun _ => y)) (P ∧ Q) := by
  cases x with
  | some why =>
    have refuted : ¬P := fun h => nomatch first.accepts.mpr h
    exact .reject first.isCause fun h => refuted h.1
  | none =>
    have holds : P := first.accepts.mp rfl
    exact second.congr ⟨fun h => ⟨holds, h⟩, And.right⟩

/-- A check that rejects the first element which has a fault. -/
theorem decides_find? {fault : α → Bool} {why : α → Diagnostic} (cause : ∀ a, (why a).IsCause)
    (as : List α) : Decides (.ok ((as.find? fault).map why)) (∀ a ∈ as, fault a = false) := by
  cases found : as.find? fault with
  | some a =>
    have faulty : fault a = true := List.find?_some found
    refine .reject (cause a) fun h => ?_
    rw [h a (List.mem_of_find?_eq_some found)] at faulty
    cases faulty
  | none =>
    exact .accept fun a mem => Bool.eq_false_iff.mpr (List.find?_eq_none.mp found a mem)

/-- A check of the elements one after the other. -/
theorem decides_findSome? {f : α → Option Diagnostic} {good : α → Prop} (as : List α)
    (each : ∀ a, Decides (.ok (f a)) (good a)) :
    Decides (.ok (as.findSome? f)) (∀ a ∈ as, good a) := by
  cases found : as.findSome? f with
  | some why =>
    obtain ⟨a, mem, faulty⟩ := List.exists_of_findSome?_eq_some found
    have single := each a
    rw [faulty] at single
    exact .reject single.isCause fun h => nomatch single.accepts.mpr (h a mem)
  | none =>
    refine .accept fun a mem => (each a).accepts.mp ?_
    rw [List.findSome?_eq_none_iff.mp found a mem]

/-- A check of the elements one after the other, each of which may be at a loss. -/
theorem decides_findSomeM? {f : α → Except Misuse (Option Diagnostic)} {good : α → Prop}
    (as : List α) (each : ∀ a ∈ as, Decides (f a) (good a)) :
    Decides (as.findSomeM? f) (∀ a ∈ as, good a) := by
  induction as with
  | nil => exact .accept (List.forall_mem_nil _)
  | cons a as ih =>
    have rest := ih fun b mem => each b (List.mem_cons_of_mem a mem)
    have head := each a List.mem_cons_self
    obtain ⟨answer, said, -⟩ := head.answers
    rw [said] at head
    rw [List.findSomeM?, said, ok_bind]
    cases answer with
    | some why =>
      exact .reject head.isCause fun h => nomatch head.accepts.mpr (h a List.mem_cons_self)
    | none => exact rest.congr (by simp only [List.forall_mem_cons, head.accepts.mp rfl, true_and])

end Combine

/-! ## The verdict on a step -/

namespace Rule

/-- The rule licenses the conclusion from the premises. -/
def Accepts (r : Rule) (conclusion : Formula) (premises : List Premise) : Prop :=
  Verifier.judge r ⟨conclusion, premises⟩ = .ok .valid

variable {r : Rule} {s : Step} {c : Formula} {ps : List Premise}

/-- A rule accepts when the shape fits and the check has nothing to say. -/
theorem accepts_iff :
    r.Accepts c ps ↔ r.shapeDiagnostic? ⟨c, ps⟩ = none ∧ r.check ⟨c, ps⟩ = .ok none := by
  unfold Accepts Verifier.judge
  cases r.shapeDiagnostic? ⟨c, ps⟩ with
  | some why => simp only [Except.ok.injEq, reduceCtorEq, false_and]
  | none =>
    rcases r.check ⟨c, ps⟩ with error | _ | why
    · simp only [Except.map, reduceCtorEq, and_false]
    · simp only [Except.map, and_self]
    · simp only [Except.map, Except.ok.injEq, reduceCtorEq, and_false]

/-- A step is rejected by the check when its shape is right. -/
theorem judge_eq_violation_iff {why : Diagnostic} :
    Verifier.judge r s = .ok (.violation why) ↔
      r.shapeDiagnostic? s = none ∧ r.check s = .ok (some why) := by
  unfold Verifier.judge
  cases r.shapeDiagnostic? s with
  | some mismatch => simp only [Except.ok.injEq, reduceCtorEq, false_and]
  | none =>
    rcases r.check s with error | _ | given
    · simp only [Except.map, reduceCtorEq, and_false]
    · simp only [Except.map, Except.ok.injEq, reduceCtorEq, and_false]
    · simp only [Except.map, Except.ok.injEq, Verdict.violation.injEq, Option.some.injEq, true_and]

/-- A verdict is valid when the rule accepts. -/
theorem eq_valid_iff_accepts {x : Verdict} (judged : Verifier.judge r ⟨c, ps⟩ = .ok x) :
    x = .valid ↔ r.Accepts c ps := by
  rw [Accepts, judged, Except.ok.injEq]

/-- A verdict comes of the shape or, when that is right, of the check. -/
theorem judge_cases {x : Verdict} (judged : Verifier.judge r s = .ok x) :
    (∃ why, r.shapeDiagnostic? s = some why ∧ x = .shapeMismatch why) ∨
      r.shapeDiagnostic? s = none ∧
        (r.check s = .ok none ∧ x = .valid ∨ ∃ why, r.check s = .ok (some why) ∧ x = .violation why) := by
  unfold Verifier.judge at judged
  cases shape : r.shapeDiagnostic? s with
  | some why =>
    rw [shape] at judged
    cases judged
    exact .inl ⟨why, rfl, rfl⟩
  | none =>
    rw [shape] at judged
    rcases checked : r.check s with _ | _ | why
    · rw [checked] at judged
      cases judged
    · rw [checked] at judged
      cases judged
      exact .inr ⟨rfl, .inl ⟨rfl, rfl⟩⟩
    · rw [checked] at judged
      cases judged
      exact .inr ⟨rfl, .inr ⟨why, rfl, rfl⟩⟩

/-- A verdict is a mismatch of the shape when the step has not the shape of the rule. -/
theorem exists_shapeMismatch_iff {x : Verdict} (judged : Verifier.judge r s = .ok x) :
    (∃ why, x = .shapeMismatch why) ↔ r.shapeDiagnostic? s ≠ none := by
  rcases judge_cases judged with ⟨why, shape, rfl⟩ | ⟨shape, ⟨-, rfl⟩ | ⟨why, -, rfl⟩⟩
  · simp [shape]
  · simp [shape]
  · simp [shape]

/-- A rule without subproofs looks at nothing but the formulas of its premises. -/
theorem accepts_iff_plain (none : r.subproofCount ⟨c, ps⟩ = 0) :
    r.Accepts c ps ↔ ∃ φs : List Formula, ps = φs.map .plain ∧
      φs.length = r.premiseCount ⟨c, ps⟩ ∧ r.check ⟨c, φs.map .plain⟩ = .ok .none := by
  rw [accepts_iff, shapeDiagnostic?_eq_none_iff_plain none]
  constructor
  · intro h
    obtain ⟨⟨φs, rfl, count⟩, accepted⟩ := h
    exact ⟨φs, rfl, count, accepted⟩
  · intro h
    obtain ⟨φs, rfl, count, accepted⟩ := h
    exact ⟨⟨φs, rfl, count⟩, accepted⟩

/-- The rule takes this many premises, all plain, whatever the step is. -/
structure TakesPlain (r : Rule) (n : Nat) : Prop where
  count : ∀ s, r.premiseCount s = n
  none : ∀ s, r.subproofCount s = 0

namespace TakesPlain

/-- A rule for one plain premise accepts when its check does, on that premise. -/
theorem accepts_iff_one (takes : r.TakesPlain 1) :
    r.Accepts c ps ↔ ∃ φ, ps = [.plain φ] ∧ r.check ⟨c, [.plain φ]⟩ = .ok .none := by
  rw [accepts_iff_plain (takes.none _), takes.count]
  constructor
  · intro h
    obtain ⟨φs, rfl, one, accepted⟩ := h
    obtain ⟨φ, rfl⟩ := List.length_eq_one_iff.mp one
    exact ⟨φ, rfl, accepted⟩
  · intro h
    obtain ⟨φ, rfl, accepted⟩ := h
    exact ⟨[φ], rfl, rfl, accepted⟩

/-- A rule for two plain premises accepts when its check does, on those two. -/
theorem accepts_iff_two (takes : r.TakesPlain 2) :
    r.Accepts c ps ↔
      ∃ φ ψ, ps = [.plain φ, .plain ψ] ∧ r.check ⟨c, [.plain φ, .plain ψ]⟩ = .ok .none := by
  rw [accepts_iff_plain (takes.none _), takes.count]
  constructor
  · intro h
    obtain ⟨φs, rfl, two, accepted⟩ := h
    obtain ⟨φ, ψ, rfl⟩ := List.length_eq_two.mp two
    exact ⟨φ, ψ, rfl, accepted⟩
  · intro h
    obtain ⟨φ, ψ, rfl, accepted⟩ := h
    exact ⟨[φ, ψ], rfl, rfl, accepted⟩

/-- A check for one plain premise need only answer for such a premise. -/
theorem answers_one (takes : r.TakesPlain 1)
    (answers : ∀ φ, ps = [.plain φ] → Answers (r.check ⟨c, [.plain φ]⟩))
    (shape : r.shapeDiagnostic? ⟨c, ps⟩ = .none) : Answers (r.check ⟨c, ps⟩) := by
  obtain ⟨φs, rfl, one⟩ := (shapeDiagnostic?_eq_none_iff_plain (takes.none _)).mp shape
  obtain ⟨φ, rfl⟩ := List.length_eq_one_iff.mp (one.trans (takes.count _))
  exact answers φ rfl

/-- A check for two plain premises need only answer for two such premises. -/
theorem answers_two (takes : r.TakesPlain 2)
    (answers : ∀ φ ψ, ps = [.plain φ, .plain ψ] → Answers (r.check ⟨c, [.plain φ, .plain ψ]⟩))
    (shape : r.shapeDiagnostic? ⟨c, ps⟩ = .none) : Answers (r.check ⟨c, ps⟩) := by
  obtain ⟨φs, rfl, two⟩ := (shapeDiagnostic?_eq_none_iff_plain (takes.none _)).mp shape
  obtain ⟨φ, ψ, rfl⟩ := List.length_eq_two.mp (two.trans (takes.count _))
  exact answers φ ψ rfl

end TakesPlain

/-- The rule takes one plain premise, and its check decides a relation between that and the
conclusion. -/
structure DecidesOne (r : Rule) (P : Formula → Formula → Prop) : Prop extends r.TakesPlain 1 where
  decides : ∀ c φ, Decides (r.check ⟨c, [.plain φ]⟩) (P c φ)

/-- A check that decides a property of conclusion and premise accepts where it holds. -/
theorem DecidesOne.accepts_iff {P : Formula → Formula → Prop} (r_decides : r.DecidesOne P) :
    r.Accepts c ps ↔ ∃ φ, ps = [.plain φ] ∧ P c φ := by
  simp only [r_decides.accepts_iff_one, (r_decides.decides _ _).accepts]

/-- A check that decides answers. -/
theorem DecidesOne.answers {P : Formula → Formula → Prop} (r_decides : r.DecidesOne P)
    (shape : r.shapeDiagnostic? ⟨c, ps⟩ = .none) : Answers (r.check ⟨c, ps⟩) :=
  r_decides.answers_one (fun φ _ => (r_decides.decides c φ).answers) shape

theorem isCause_of_misplaced? {n : Nat} {why : Diagnostic} (h : misplaced? n ps = some why) :
    why.IsCause := by
  obtain ⟨⟨p, i⟩, -, found⟩ := List.exists_of_findSome?_eq_some h
  dsimp only at found
  split at found
  · cases found; trivial
  · split at found
    · cases found; trivial
    · cases found

/-- A shape that does not fit is a cause to reject. -/
theorem isCause_of_shapeDiagnostic? {why : Diagnostic} (h : r.shapeDiagnostic? s = some why) :
    why.IsCause := by
  simp only [shapeDiagnostic?] at h
  split at h
  · exact isCause_of_misplaced? h
  · cases h; trivial

/-- A rule whose check answers steps of its shape gives a verdict on every step. -/
theorem judge_answers (h : r.shapeDiagnostic? s = none → Answers (r.check s)) :
    ∃ verdict, Verifier.judge r s = .ok verdict ∧
      ∀ why, verdict.diagnostic? = some why → why.IsCause := by
  unfold Verifier.judge
  cases shape : r.shapeDiagnostic? s with
  | some why =>
    refine ⟨.shapeMismatch why, rfl, fun why' same => ?_⟩
    cases same
    exact isCause_of_shapeDiagnostic? shape
  | none =>
    obtain ⟨_ | why, checked, cause⟩ := h shape
    · exact ⟨.valid, by rw [checked]; rfl, nofun⟩
    · refine ⟨.violation why, by rw [checked]; rfl, fun why' same => ?_⟩
      cases same
      exact cause why rfl

end Rule

end NaturalDeduction
