import NaturalDeduction.Proofs.Rule.Arrangement
import NaturalDeduction.Proofs.Safety

/-!
# Swapping two premises

Four rules try their check on both orders of two premises. What they answer is then blind to the
order that the premises are cited in, down to the words of the diagnostic. Only a premise that
should be plain and is a subproof is named by its position, and that happens before any check.
-/

namespace NaturalDeduction

namespace Outcome

/-- What is said of an arrangement. A check that is at a loss counts as one for another order. -/
def said : Except Misuse Outcome → Outcome
  | .ok outcome => outcome
  | .error _ => .wrongOrder

variable {check : List Formula → Except Misuse Outcome} {fallthrough : Diagnostic}

/-- A check that is never at a loss is tried as a check that cannot be. -/
theorem firstValid_eq_ok {rest : List (List Formula)}
    (answers : ∀ φs ∈ rest, Answers (check φs)) (found : List Diagnostic) :
    firstValid check fallthrough rest found =
      .ok (firstValid (m := Id) (fun φs => said (check φs)) fallthrough rest found) := by
  induction rest generalizing found with
  | nil => rfl
  | cons φs rest ih =>
    obtain ⟨outcome, answer, -⟩ := answers φs List.mem_cons_self
    have later := ih fun ψs mem => answers ψs (List.mem_cons_of_mem φs mem)
    rw [firstValid, firstValid_cons, answer, ok_bind]
    cases outcome with
    | valid => rfl
    | wrongOrder => exact later found
    | rejected why => exact later (found ++ [why])

/-- If the check answers on every order, trying all orders goes by its answers. -/
theorem anyOrder_eq_ok {φs : List Formula}
    (answers : ∀ ψs, ψs.Perm φs → Answers (check ψs)) :
    anyOrder check fallthrough φs =
      .ok (anyOrder (m := Id) (fun ψs => said (check ψs)) fallthrough φs) :=
  firstValid_eq_ok (fun ψs mem => answers ψs (mem_arrangements.mp mem)) []

end Outcome

namespace Check

variable {f : Formula → Formula → Formula → Except Misuse Outcome} {c φ ψ : Formula}

/-- A check of two premises in either order answers alike whichever of them comes first. -/
theorem inEitherOrder_swap (shape : Shape) (first : Outcome.Answers (f c φ ψ))
    (second : Outcome.Answers (f c ψ φ)) :
    ∃ x y, inEitherOrder f shape ⟨c, [.plain φ, .plain ψ]⟩ = .ok x ∧
      inEitherOrder f shape ⟨c, [.plain ψ, .plain φ]⟩ = .ok y ∧
      x.map Diagnostic.message = y.map Diagnostic.message := by
  have answers : ∀ χs, χs.Perm [φ, ψ] → Outcome.Answers (arranged f c χs) := by
    intro χs perm
    rcases List.perm_pair.mp perm with rfl | rfl
    · exact first
    · exact second
  have swap : [ψ, φ].Perm [φ, ψ] := .swap φ ψ []
  refine ⟨_, _, Outcome.anyOrder_eq_ok answers,
    Outcome.anyOrder_eq_ok fun χs perm => answers χs (perm.trans swap), ?_⟩
  exact (message_anyOrder_perm swap).symm

end Check

namespace Verdict

/-- The verdict on a step of the right shape, from what the check answers. -/
def ofAnswer : Option Diagnostic → Verdict
  | none => valid
  | some why => violation why

@[simp] theorem diagnostic?_ofAnswer (answer : Option Diagnostic) :
    (ofAnswer answer).diagnostic? = answer := by
  cases answer <;> rfl

/-- Answers in the same words make verdicts of the same kind. -/
theorem name_ofAnswer_congr {x y : Option Diagnostic}
    (same : x.map Diagnostic.message = y.map Diagnostic.message) :
    (ofAnswer x).name = (ofAnswer y).name := by
  cases x with
  | none =>
    cases y with
    | none => rfl
    | some why => cases same
  | some why =>
    cases y with
    | none => cases same
    | some why' => rfl

end Verdict

namespace Rule

variable {r : Rule} {f : Formula → Formula → Formula → Except Misuse Outcome} {shape : Shape}
  {c : Formula} {p q : Premise}

/-- A rule for two plain premises names the first subproof among them by its position. -/
theorem TakesPlain.judge_of_subproof (takes : r.TakesPlain 2)
    (subproof : p.isSubproof = true ∨ q.isSubproof = true) :
    Verifier.judge r ⟨c, [p, q]⟩ =
      .ok (.shapeMismatch (.plainExpected (if p.isSubproof then 1 else 2))) := by
  have shape : r.shapeDiagnostic? ⟨c, [p, q]⟩ = misplaced? 2 [p, q] := by
    rw [shapeDiagnostic?, takes.count, takes.none]
    rfl
  have named : misplaced? 2 [p, q] = some (.plainExpected (if p.isSubproof then 1 else 2)) := by
    cases p with
    | subproof assumptions ψ => rfl
    | plain φ =>
      cases q with
      | subproof assumptions ψ => rfl
      | plain ψ => rcases subproof with impossible | impossible <;> cases impossible
  rw [Verifier.judge, shape, named]

/-- Two positions are told apart by the words in which they are named. -/
theorem message_plainExpected_ne :
    (Diagnostic.plainExpected 1).message ≠ (Diagnostic.plainExpected 2).message := by
  decide

/-- Where both premises are plain, a check that is tried on both orders gives the same verdict in
the same words whichever of them comes first. -/
theorem TriesBothOrders.judge_swap_plain (tries : r.TriesBothOrders f shape) {φ ψ : Formula}
    (first : Outcome.Answers (f c φ ψ)) (second : Outcome.Answers (f c ψ φ)) :
    ∃ x y, Verifier.judge r ⟨c, [.plain φ, .plain ψ]⟩ = .ok x ∧
      Verifier.judge r ⟨c, [.plain ψ, .plain φ]⟩ = .ok y ∧ x.name = y.name ∧
      x.diagnostic?.map Diagnostic.message = y.diagnostic?.map Diagnostic.message := by
  have judged {φ ψ : Formula} {answer : Option Diagnostic}
      (checked : Check.inEitherOrder f shape ⟨c, [.plain φ, .plain ψ]⟩ = .ok answer) :
      Verifier.judge r ⟨c, [.plain φ, .plain ψ]⟩ = .ok (.ofAnswer answer) := by
    have right : r.shapeDiagnostic? ⟨c, [.plain φ, .plain ψ]⟩ = .none :=
      (shapeDiagnostic?_eq_none_iff_plain (tries.none _)).mpr
        ⟨[φ, ψ], rfl, (tries.count _).symm⟩
    rw [Verifier.judge, right, tries.check, checked]
    cases answer <;> rfl
  obtain ⟨x, y, given, swapped, same⟩ := Check.inEitherOrder_swap shape first second
  exact ⟨_, _, judged given, judged swapped, Verdict.name_ofAnswer_congr same,
    by rw [Verdict.diagnostic?_ofAnswer, Verdict.diagnostic?_ofAnswer, same]⟩

/-- Swapping its two premises never changes what kind of verdict such a rule gives, nor its words
unless just one of the premises is a subproof. -/
theorem TriesBothOrders.judge_swap (tries : r.TriesBothOrders f shape)
    (answers : ∀ φ ψ, InEitherOrder [p, q] φ ψ → Outcome.Answers (f c φ ψ)) :
    ∃ x y, Verifier.judge r ⟨c, [p, q]⟩ = .ok x ∧ Verifier.judge r ⟨c, [q, p]⟩ = .ok y ∧
      x.name = y.name ∧ (x.diagnostic?.map Diagnostic.message =
        y.diagnostic?.map Diagnostic.message ↔ p.isSubproof = q.isSubproof) := by
  by_cases subproof : p.isSubproof = true ∨ q.isSubproof = true
  · refine ⟨_, _, tries.judge_of_subproof subproof, tries.judge_of_subproof subproof.symm, rfl, ?_⟩
    have differ := message_plainExpected_ne
    simp only [Verdict.diagnostic?, Option.map_some, Option.some.injEq]
    cases hp : p.isSubproof <;> cases hq : q.isSubproof
    · simp [hp, hq] at subproof
    · simpa using differ.symm
    · simpa using differ
    · simp
  · obtain ⟨plainp, plainq⟩ := not_or.mp subproof
    rw [Bool.not_eq_true] at plainp plainq
    obtain ⟨φ, rfl⟩ : ∃ φ, p = .plain φ := ⟨_, Premise.isSubproof_eq_false.mp plainp⟩
    obtain ⟨ψ, rfl⟩ : ∃ ψ, q = .plain ψ := ⟨_, Premise.isSubproof_eq_false.mp plainq⟩
    obtain ⟨x, y, given, swapped, kind, words⟩ :=
      tries.judge_swap_plain (answers φ ψ (.inl rfl)) (answers ψ φ (.inr rfl))
    exact ⟨x, y, given, swapped, kind, iff_of_true words rfl⟩

end Rule

namespace RuleId

/-- The rules whose check is tried on both orders of two premises. -/
def TriesBothOrders (id : RuleId) : Prop :=
  id ∈ [modusPonens, modusTollens, disjunctiveSyllogism, biconditionalElimination]

/-- The check of one order of the two premises, for such a rule. -/
def outcome : RuleId → Formula → Formula → Formula → Except Misuse Outcome
  | modusPonens => ModusPonens.outcome
  | modusTollens => ModusTollens.outcome
  | disjunctiveSyllogism => DisjunctiveSyllogism.outcome
  | biconditionalElimination => BiconditionalElimination.outcome
  | _ => fun _ _ _ => .ok .wrongOrder

variable {id : RuleId} {c φ : Formula} {p q : Premise}

/-- Four rules try both orders of two premises. -/
theorem TriesBothOrders.cases (tries : id.TriesBothOrders) :
    id = modusPonens ∨ id = modusTollens ∨ id = disjunctiveSyllogism ∨
      id = biconditionalElimination := by
  simpa only [TriesBothOrders, List.mem_cons, List.not_mem_nil, or_false] using tries

theorem TriesBothOrders.exists_shape (tries : id.TriesBothOrders) :
    ∃ shape, id.rule.TriesBothOrders id.outcome shape := by
  rcases tries.cases with rfl | rfl | rfl | rfl
  · exact ⟨_, ModusPonens.triesBothOrders⟩
  · exact ⟨_, ModusTollens.triesBothOrders⟩
  · exact ⟨_, DisjunctiveSyllogism.triesBothOrders⟩
  · exact ⟨_, BiconditionalElimination.triesBothOrders⟩

/-- Only the disjunctive syllogism needs a well-formed premise, which it takes apart. -/
theorem TriesBothOrders.answers (tries : id.TriesBothOrders) (wf : φ.WellFormed) (c ψ : Formula) :
    Outcome.Answers (id.outcome c φ ψ) := by
  rcases tries.cases with rfl | rfl | rfl | rfl
  · exact (ModusPonens.outcome_decides c φ ψ).answers
  · exact (ModusTollens.outcome_decides c φ ψ).answers
  · exact (DisjunctiveSyllogism.outcome_decides wf c ψ).answers
  · exact (BiconditionalElimination.outcome_decides c φ ψ).answers

/-- Swapping the premises of such a rule keeps the kind of the verdict, and its words if the
premises are of one kind. -/
theorem judge_swap (tries : id.TriesBothOrders) (wfp : p.WellFormed) (wfq : q.WellFormed) :
    ∃ x y, Verifier.judge id.rule ⟨c, [p, q]⟩ = .ok x ∧
      Verifier.judge id.rule ⟨c, [q, p]⟩ = .ok y ∧
      x.name = y.name ∧ (x.diagnostic?.map Diagnostic.message =
        y.diagnostic?.map Diagnostic.message ↔ p.isSubproof = q.isSubproof) := by
  have wf : ∀ r ∈ [p, q], r.WellFormed := by
    intro r mem
    rcases List.mem_pair.mp mem with rfl | rfl
    · exact wfp
    · exact wfq
  obtain ⟨shape, checks⟩ := tries.exists_shape
  exact checks.judge_swap fun φ ψ pair => tries.answers (pair.wellFormed wf).1 c ψ

end RuleId

/-- A check that is tried on every order of several formulas accepts exactly when it accepts some
order. Otherwise the answer is the fallthrough when no order is the right one, the reason when all
reasons have one text, and else the list of the texts, each once and in order. In every case the
text of the answer is the same whatever order the formulas are given in.

So a rule that tries both orders of two premises gives a verdict of the same kind when they are
swapped, and in the same words unless just one of the premises is a subproof; the verdict is then
about the shape and names the subproof by its position. -/
theorem Verifier.answers_alike_in_any_order :
    (∀ (check : List Formula → Outcome) (fallthrough : Diagnostic) (φs : List Formula),
      (anyOrder (m := Id) check fallthrough φs = none ↔
        ∃ ψs, ψs.Perm φs ∧ check ψs = .valid) ∧
      ((∀ ψs, ψs.Perm φs → check ψs = .wrongOrder) →
        anyOrder (m := Id) check fallthrough φs = some fallthrough) ∧
      ((∀ ψs, ψs.Perm φs → check ψs ≠ .valid) →
        (∀ text, (∀ t, Outcome.IsReason check φs t ↔ t = text) →
          (anyOrder (m := Id) check fallthrough φs).map Diagnostic.message = some text) ∧
        ∀ s t, Outcome.IsReason check φs s → Outcome.IsReason check φs t → s ≠ t →
          ∃ texts : List String, texts.Pairwise (· < ·) ∧
            (∀ u, u ∈ texts ↔ Outcome.IsReason check φs u) ∧
            anyOrder (m := Id) check fallthrough φs = some (.oneOf texts)) ∧
      ∀ ψs, ψs.Perm φs →
        (anyOrder (m := Id) check fallthrough ψs).map Diagnostic.message =
          (anyOrder (m := Id) check fallthrough φs).map Diagnostic.message) ∧
    ∀ (v : Verifier) (id : RuleId) (c : Formula) (p q : Premise), id.TriesBothOrders →
      p.WellFormed → q.WellFormed → ∃ x y : Verdict,
        (v.verifyStep (.known id) c ([p, q].map .premise)).outcome = .ok ⟨id, x⟩ ∧
        (v.verifyStep (.known id) c ([q, p].map .premise)).outcome = .ok ⟨id, y⟩ ∧
        x.name = y.name ∧
        (x.diagnostic?.map Diagnostic.message = y.diagnostic?.map Diagnostic.message ↔
          p.isSubproof = q.isSubproof) := by
  constructor
  · intro check fallthrough φs
    refine ⟨anyOrder_eq_none_iff, anyOrder_eq_fallthrough, fun refused => ⟨?_, ?_⟩, ?_⟩
    · exact fun text single => message_anyOrder_of_single refused single
    · exact fun s t first second differ => anyOrder_of_several refused first second differ
    · exact fun ψs perm => message_anyOrder_perm perm
  · intro v id c p q tries wfp wfq
    obtain ⟨x, y, given, swapped, kind, words⟩ := RuleId.judge_swap (c := c) tries wfp wfq
    refine ⟨x, y, ?_, ?_, kind, words⟩
    · rw [verifyStep_eq_verifyBy rfl, verifyBy_outcome_eq_ok_iff]
      exact ⟨rfl, given⟩
    · rw [verifyStep_eq_verifyBy rfl, verifyBy_outcome_eq_ok_iff]
      exact ⟨rfl, swapped⟩

/-- A check that rejects `P`, `Q` and `Q`, `P` in words of their own is answered with both. By modus
ponens, `P → Q` and `R → S` do not yield `T`, and are told so in the same words when swapped. -/
theorem Verifier.answers_alike_of_swapped_implications :
    (∃ texts : List String, texts.Pairwise (· < ·) ∧ "P, Q" ∈ texts ∧ "Q, P" ∈ texts ∧
      anyOrder (m := Id) (fun φs => .rejected (.stated (Formula.textAll φs)))
        (.absentShape Shape.implication.text) [.atom "Q", .atom "P"] = some (.oneOf texts)) ∧
    ∃ x y : Verdict,
      (Verifier.verifyStep {} (.known .modusPonens) (.atom "T")
        ([.plain (.imp (.atom "P") (.atom "Q")), .plain (.imp (.atom "R") (.atom "S"))].map
          .premise)).outcome = .ok ⟨.modusPonens, x⟩ ∧
      (Verifier.verifyStep {} (.known .modusPonens) (.atom "T")
        ([.plain (.imp (.atom "R") (.atom "S")), .plain (.imp (.atom "P") (.atom "Q"))].map
          .premise)).outcome = .ok ⟨.modusPonens, y⟩ ∧
      x.name = y.name ∧
      x.diagnostic?.map Diagnostic.message = y.diagnostic?.map Diagnostic.message := by
  constructor
  · have reason (φ ψ : Formula) (perm : [φ, ψ].Perm [.atom "Q", .atom "P"]) :
        Outcome.IsReason (fun φs => .rejected (.stated (Formula.textAll φs)))
          [.atom "Q", .atom "P"] (Formula.textAll [φ, ψ]) := ⟨[φ, ψ], _, perm, rfl, rfl⟩
    have given := reason (.atom "Q") (.atom "P") (.refl _)
    have swapped := reason (.atom "P") (.atom "Q") (.swap _ _ _)
    obtain ⟨-, -, refused, -⟩ := answers_alike_in_any_order.1
      (fun φs => .rejected (.stated (Formula.textAll φs)))
      (.absentShape Shape.implication.text) [.atom "Q", .atom "P"]
    obtain ⟨texts, ordered, mem, answer⟩ :=
      (refused fun _ _ => nofun).2 _ _ given swapped (by decide)
    exact ⟨texts, ordered, (mem _).mpr swapped, (mem _).mpr given, answer⟩
  · obtain ⟨x, y, given, swapped, kind, words⟩ := answers_alike_in_any_order.2 {} .modusPonens
      (.atom "T") (.plain (.imp (.atom "P") (.atom "Q"))) (.plain (.imp (.atom "R") (.atom "S")))
      List.mem_cons_self (by decide) (by decide)
    exact ⟨x, y, given, swapped, kind, words.mpr rfl⟩

/-- When one of two premises is a subproof, its position is named: swapping it with `P` changes the
words of the diagnostic. -/
theorem Verifier.words_depend_on_position :
    ¬∀ (id : RuleId) (c : Formula) (p q : Premise), id.TriesBothOrders → c.WellFormed →
      p.WellFormed → q.WellFormed → ∀ x y : Verdict,
        (Verifier.verifyStep {} (.known id) c ([p, q].map .premise)).outcome = .ok ⟨id, x⟩ →
        (Verifier.verifyStep {} (.known id) c ([q, p].map .premise)).outcome = .ok ⟨id, y⟩ →
        x.diagnostic?.map Diagnostic.message = y.diagnostic?.map Diagnostic.message := by
  intro same
  have words := same .modusPonens (.atom "Q") (.subproof [.atom "P"] (.atom "Q"))
    (.plain (.atom "P")) List.mem_cons_self (by decide) (by decide) (by decide)
    (.shapeMismatch (.plainExpected 1)) (.shapeMismatch (.plainExpected 2)) rfl rfl
  exact Rule.message_plainExpected_ne (Option.some.inj words)

end NaturalDeduction
