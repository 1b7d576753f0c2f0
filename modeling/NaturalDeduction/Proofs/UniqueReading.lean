import NaturalDeduction.Claim
import NaturalDeduction.Proofs.Formula.Readable
import NaturalDeduction.Proofs.Suggestions

/-!
# What is recorded can be read in one way only

The text of a premise shows whether it is a subproof, which begins with a bracket as no formula
does, and where each assumption of it ends: at a comma, or at the turnstile. So the record of a
claim determines the step that is claimed, and two proposals with one text are one proposal.
-/

namespace NaturalDeduction

open Formula (letters letters_append_inj Closes closes_cons closes_turnstile intercalate_cons)

/-- A premise is legible when its formulas are. -/
def Premise.Legible : Premise → Prop
  | plain φ => φ.Legible
  | subproof assumptions ψ => (∀ φ ∈ assumptions, φ.Legible) ∧ ψ.Legible

instance : DecidablePred Premise.Legible
  | .plain φ => inferInstanceAs (Decidable φ.Legible)
  | .subproof assumptions ψ =>
    inferInstanceAs (Decidable ((∀ φ ∈ assumptions, φ.Legible) ∧ ψ.Legible))

/-! ## Lists of assumptions -/

/-- The letters of formulas each of which comes after a comma. -/
def commaLetters (φs : List Formula) : List Char :=
  φs.flatMap fun φ => ',' :: ' ' :: letters .logical φ

theorem commaLetters_cons (φ : Formula) (φs : List Formula) :
    commaLetters (φ :: φs) = ',' :: ' ' :: (letters .logical φ ++ commaLetters φs) := by
  simp [commaLetters]

theorem toList_textAll_cons (φ : Formula) (φs : List Formula) :
    (Formula.textAll (φ :: φs)).toList = letters .logical φ ++ commaLetters φs := by
  have separator : ", ".toList = [',', ' '] := by decide
  simp only [Formula.textAll, String.toList_intercalate, separator, List.map_cons, intercalate_cons,
    commaLetters, List.flatMap_map]
  rfl

/-- A formula closes before a comma, and before the turnstile when no other follows. -/
theorem closes_commaLetters (φs : List Formula) (s : List Char) :
    Closes (commaLetters φs ++ ' ' :: '⊢' :: s) := by
  cases φs with
  | nil => exact closes_turnstile s
  | cons φ φs =>
    rw [commaLetters_cons]
    exact closes_cons (by decide) (by decide) _

variable {φs ψs : List Formula} {s t : List Char}

/-- Assumptions are read off up to the turnstile after them. -/
theorem commaLetters_append_inj (hφs : ∀ φ ∈ φs, φ.Legible) (hψs : ∀ ψ ∈ ψs, ψ.Legible)
    (same : commaLetters φs ++ ' ' :: '⊢' :: s = commaLetters ψs ++ ' ' :: '⊢' :: t) :
    φs = ψs ∧ s = t := by
  induction φs generalizing ψs with
  | nil =>
    cases ψs with
    | nil => simpa [commaLetters] using same
    | cons ψ ψs => simp [commaLetters] at same
  | cons φ φs ih =>
    cases ψs with
    | nil => simp [commaLetters] at same
    | cons ψ ψs =>
      rw [List.forall_mem_cons] at hφs hψs
      simp only [commaLetters_cons, List.cons_append, List.append_assoc, List.cons.injEq,
        true_and] at same
      obtain ⟨rfl, after⟩ := letters_append_inj hφs.1 hψs.1 (closes_commaLetters φs s)
        (closes_commaLetters ψs t) same
      obtain ⟨rfl, rest⟩ := ih hφs.2 hψs.2 after
      exact ⟨rfl, rest⟩

/-- The assumptions before a turnstile are determined by their writing. -/
theorem textAll_append_inj (hφs : ∀ φ ∈ φs, φ.Legible) (hψs : ∀ ψ ∈ ψs, ψ.Legible)
    (same : (Formula.textAll φs).toList ++ ' ' :: '⊢' :: s =
      (Formula.textAll ψs).toList ++ ' ' :: '⊢' :: t) : φs = ψs ∧ s = t := by
  have empty : (Formula.textAll []).toList = [] := by decide
  -- Nothing but the turnstile follows a blank at the head, since no formula begins with one.
  have blank {φ : Formula} (legible : φ.Legible) (rest more : List Char) :
      ' ' :: more ≠ letters .logical φ ++ rest := by
    obtain ⟨x, others, letters, notBlank, -⟩ := legible.letters_head .logical
    rw [letters]
    intro same
    exact notBlank (List.cons.inj same).1.symm
  cases φs with
  | nil =>
    cases ψs with
    | nil => simpa [empty] using same
    | cons ψ ψs =>
      rw [empty, toList_textAll_cons, List.append_assoc] at same
      exact absurd same (blank (hψs ψ List.mem_cons_self) _ _)
  | cons φ φs =>
    cases ψs with
    | nil =>
      rw [empty, toList_textAll_cons, List.append_assoc] at same
      exact absurd same.symm (blank (hφs φ List.mem_cons_self) _ _)
    | cons ψ ψs =>
      apply commaLetters_append_inj hφs hψs
      rw [toList_textAll_cons, toList_textAll_cons] at same
      simp only [commaLetters_cons, List.cons_append, same]

/-! ## Premises and claims -/

namespace Premise

theorem toList_text_subproof (assumptions : List Formula) (ψ : Formula) :
    (text (subproof assumptions ψ)).toList =
      '[' :: ((Formula.textAll assumptions).toList ++
        ' ' :: '⊢' :: ' ' :: (letters .logical ψ ++ [']'])) := by
  have opening : "[".toList = ['['] := by decide
  have turnstile : " ⊢ ".toList = [' ', '⊢', ' '] := by decide
  have closing : "]".toList = [']'] := by decide
  have written : text (subproof assumptions ψ) =
      "[" ++ Formula.textAll assumptions ++ " ⊢ " ++ ψ.text ++ "]" := rfl
  simp only [written, String.toList_append, opening, turnstile, closing, List.cons_append,
    List.nil_append, List.append_assoc]
  rfl

/-- A plain premise does not begin with a bracket, as a subproof does. -/
theorem text_plain_ne_text_subproof {φ : Formula} (legible : φ.Legible)
    (assumptions : List Formula) (ψ : Formula) :
    text (plain φ) ≠ text (subproof assumptions ψ) := by
  intro same
  obtain ⟨x, rest, letters, -, notBracket⟩ := legible.letters_head .logical
  have plain : (text (plain φ)).toList = x :: rest := letters
  rw [same, toList_text_subproof] at plain
  exact notBracket (List.cons.inj plain).1.symm

/-- A legible premise, plain or a subproof, is determined by its text. -/
theorem eq_of_text_eq {p q : Premise} (hp : p.Legible) (hq : q.Legible)
    (same : p.text = q.text) : p = q := by
  cases p with
  | plain φ =>
    cases q with
    | plain ψ => exact congrArg plain (Formula.eq_of_render_eq hp hq same)
    | subproof bs ψ => exact absurd same (text_plain_ne_text_subproof hp bs ψ)
  | subproof as φ =>
    cases q with
    | plain ψ => exact absurd same.symm (text_plain_ne_text_subproof hq as φ)
    | subproof bs ψ =>
      have writing := congrArg String.toList same
      rw [toList_text_subproof, toList_text_subproof] at writing
      obtain ⟨rfl, conclusions⟩ := textAll_append_inj hp.1 hq.1 (List.cons.inj writing).2
      have closes : Closes [']'] := closes_cons (by decide) (by decide) []
      obtain ⟨rfl, -⟩ := letters_append_inj hp.2 hq.2 closes closes (List.cons.inj conclusions).2
      rfl

/-- Premises are told apart by their texts, one by one. -/
theorem eq_of_map_text_eq {ps qs : List Premise} (hps : ∀ p ∈ ps, p.Legible)
    (hqs : ∀ q ∈ qs, q.Legible) (same : ps.map text = qs.map text) : ps = qs := by
  induction ps generalizing qs with
  | nil => exact (List.map_eq_nil_iff.mp same.symm).symm
  | cons p ps ih =>
    cases qs with
    | nil => cases same
    | cons q qs =>
      rw [List.forall_mem_cons] at hps hqs
      obtain ⟨head, tail⟩ := List.cons.inj same
      rw [eq_of_text_eq hps.1 hqs.1 head, ih hps.2 hqs.2 tail]

end Premise

/-- The formulas of a step are legible. -/
def Step.Legible (s : Step) : Prop := s.conclusion.Legible ∧ ∀ p ∈ s.premises, p.Legible

/-- The texts in the record of a claim determine the step that is claimed. -/
theorem Claim.toStep_eq_of_summary_eq {a b : Claim} (ha : a.toStep.Legible) (hb : b.toStep.Legible)
    (conclusions : a.summary.conclusion = b.summary.conclusion)
    (premises : a.summary.premises = b.summary.premises) : a.toStep = b.toStep := by
  have conclusion : a.conclusion = b.conclusion := Formula.eq_of_render_eq ha.1 hb.1 conclusions
  have cited : a.premises = b.premises := Premise.eq_of_map_text_eq ha.2 hb.2 premises
  exact congrArg₂ Step.mk conclusion cited

/-- What is written of well-formed formulas with plain names can be read in one way only. In either
script a formula is determined by its writing; a premise, plain or a subproof, is determined by its
text, and so is the step of a claim by the claim's record. Suggestions whose formulas are such are
the texts of the distinct formulas, so that leaving out a text twice leaves out no other formula. -/
theorem writing_unambiguous :
    (∀ (script : Script) (φ ψ : Formula), φ.Legible → ψ.Legible →
      φ.render script = ψ.render script → φ = ψ) ∧
    (∀ p q : Premise, p.Legible → q.Legible → p.text = q.text → p = q) ∧
    (∀ a b : Claim, a.toStep.Legible → b.toStep.Legible →
      a.summary.conclusion = b.summary.conclusion → a.summary.premises = b.summary.premises →
      a.conclusion = b.conclusion ∧ a.premises = b.premises) ∧
    ∀ (φs : List Formula) (left n : Nat), (∀ φ ∈ φs, φ.Legible) →
      (Suggestions.take n { pending := φs, left }).1 =
        ((φs.eraseDups.take left).take n).map Formula.text := by
  refine ⟨fun script φ ψ hφ hψ same => Formula.eq_of_render_eq hφ hψ same,
    fun p q hp hq same => Premise.eq_of_text_eq hp hq same, ?_, ?_⟩
  · intro a b ha hb conclusions premises
    have steps := Claim.toStep_eq_of_summary_eq ha hb conclusions premises
    exact ⟨congrArg Step.conclusion steps, congrArg Step.premises steps⟩
  · intro φs left n legible
    have apart : ∀ φ ∈ φs, ∀ ψ ∈ φs, φ.text = ψ.text → φ = ψ := fun φ mem ψ mem' same =>
      Formula.eq_of_render_eq (legible φ mem) (legible ψ mem') same
    rw [Suggestions.take_eq_take_remaining, Suggestions.remaining_fresh,
      Suggestions.texts_eq_map_eraseDups apart, ← List.map_take, ← List.map_take]

/-- `(P ∧ Q) ∧ R` and `P ∧ Q ∧ R` are written apart in ASCII, the subproof of `R` from `P` and `Q`
is written apart from that of `R` from `P ∧ Q`, and proposing both twice suggests each once. -/
theorem writing_unambiguous_on_nested :
    Formula.render .ascii (.conj [.conj [.atom "P", .atom "Q"], .atom "R"]) ≠
      Formula.render .ascii (.conj [.atom "P", .atom "Q", .atom "R"]) ∧
    (Premise.subproof [.atom "P", .atom "Q"] (.atom "R")).text ≠
      (Premise.subproof [.conj [.atom "P", .atom "Q"]] (.atom "R")).text ∧
    (Suggestions.take 4
      { pending := [.neg (.neg (.atom "P")), .atom "P", .neg (.neg (.atom "P")), .atom "P"]
        left := 32 }).1 = ["¬¬P", "P"] := by
  refine ⟨fun same => ?_, fun same => ?_, ?_⟩
  · have nested := writing_unambiguous.1 .ascii (.conj [.conj [.atom "P", .atom "Q"], .atom "R"])
      (.conj [.atom "P", .atom "Q", .atom "R"]) (by decide) (by decide) same
    exact absurd nested (by decide)
  · have subproofs := writing_unambiguous.2.1 (.subproof [.atom "P", .atom "Q"] (.atom "R"))
      (.subproof [.conj [.atom "P", .atom "Q"]] (.atom "R")) (by decide) (by decide) same
    exact absurd subproofs (by decide)
  · exact (writing_unambiguous.2.2.2
      [.neg (.neg (.atom "P")), .atom "P", .neg (.neg (.atom "P")), .atom "P"] 32 4
      (by decide)).trans (by decide)

end NaturalDeduction
