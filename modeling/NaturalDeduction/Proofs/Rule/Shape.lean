import NaturalDeduction.Verifier

/-!
# The shape of a step

`Rule.shapeDiagnostic?` passes a step when it has as many premises as the rule takes, the leading
ones plain and the trailing ones subproofs. A rule without subproofs therefore passes exactly the
steps whose premises are that many plain formulas, and the order of these does not matter.
-/

namespace NaturalDeduction

/-- A premise is plain when it is nothing but its formula. -/
theorem Premise.isSubproof_eq_false {p : Premise} :
    p.isSubproof = false ↔ p = .plain p.formula := by
  cases p <;> simp [isSubproof, formula]

namespace Rule

variable {r : Rule} {s : Step}

/-- No premise is misplaced when those before the first subproof are plain and the others are
subproofs. -/
theorem misplaced?_eq_none_iff {n : Nat} {ps : List Premise} :
    misplaced? n ps = none ↔
      (∀ p ∈ ps.take n, p.isSubproof = false) ∧ ∀ p ∈ ps.drop n, p.isSubproof = true := by
  have placed (p : Premise) (i : Nat) :
      (if i < n ∧ p.isSubproof = true then some (Diagnostic.plainExpected (i + 1))
        else if n ≤ i ∧ p.isSubproof = false then some (.subproofExpected (i + 1))
        else none) = none ↔
        (i < n → p.isSubproof = false) ∧ (n ≤ i → p.isSubproof = true) := by
    cases p.isSubproof <;> simp
  simp only [misplaced?, List.findSome?_eq_none_iff, Prod.forall, List.mem_zipIdx_iff_getElem?,
    placed]
  constructor
  · intro h
    refine ⟨fun p mem => ?_, fun p mem => ?_⟩
    · obtain ⟨i, found⟩ := List.mem_iff_getElem?.mp mem
      rw [List.getElem?_take] at found
      split at found
      next lt => exact (h p i found).1 lt
      next => cases found
    · obtain ⟨i, found⟩ := List.mem_iff_getElem?.mp mem
      rw [List.getElem?_drop] at found
      exact (h p (n + i) found).2 (Nat.le_add_right n i)
  · rintro ⟨plain, subproof⟩ p i found
    refine ⟨fun lt => plain p ?_, fun le => subproof p ?_⟩
    · exact List.mem_iff_getElem?.mpr ⟨i, by rw [List.getElem?_take, if_pos lt]; exact found⟩
    · refine List.mem_iff_getElem?.mpr ⟨i - n, ?_⟩
      rw [List.getElem?_drop, Nat.add_sub_cancel' le]
      exact found

/-- The shape fits when the premises are as many as the rule wants, the plain ones first. -/
theorem shapeDiagnostic?_eq_none_iff :
    r.shapeDiagnostic? s = none ↔
      s.premises.length = r.premiseCount s ∧
      (∀ p ∈ s.premises.take (r.premiseCount s - r.subproofCount s), p.isSubproof = false) ∧
      ∀ p ∈ s.premises.drop (r.premiseCount s - r.subproofCount s), p.isSubproof = true := by
  by_cases count : s.premises.length = r.premiseCount s
  · simp only [shapeDiagnostic?, count, ↓reduceIte, misplaced?_eq_none_iff, true_and]
  · simp only [shapeDiagnostic?, count, ↓reduceIte, reduceCtorEq, false_and]

/-- Premises are all plain when they are some formulas taken as premises. -/
theorem plain_iff_exists_map {ps : List Premise} :
    (∀ p ∈ ps, p.isSubproof = false) ↔ ∃ φs : List Formula, ps = φs.map .plain := by
  constructor
  · intro plain
    refine ⟨ps.map Premise.formula, ?_⟩
    rw [List.map_map]
    refine (List.map_id ps).symm.trans (List.map_congr_left fun p mem => ?_)
    exact Premise.isSubproof_eq_false.mp (plain p mem)
  · rintro ⟨φs, rfl⟩ p mem
    obtain ⟨φ, -, rfl⟩ := List.mem_map.mp mem
    rfl

/-- A rule without subproofs takes steps whose premises are plain, and as many as it asks for. -/
theorem shapeDiagnostic?_eq_none_iff_forall (none : r.subproofCount s = 0) :
    r.shapeDiagnostic? s = .none ↔
      s.premises.length = r.premiseCount s ∧ ∀ p ∈ s.premises, p.isSubproof = false := by
  rw [shapeDiagnostic?_eq_none_iff, none, Nat.sub_zero]
  refine and_congr_right fun count => ?_
  rw [← count, List.take_length, List.drop_length]
  exact and_iff_left (List.forall_mem_nil _)

/-- For a rule without subproofs the shape fits when so many premises are plain. -/
theorem shapeDiagnostic?_eq_none_iff_plain (none : r.subproofCount s = 0) :
    r.shapeDiagnostic? s = .none ↔
      ∃ φs : List Formula, s.premises = φs.map .plain ∧ φs.length = r.premiseCount s := by
  rw [shapeDiagnostic?_eq_none_iff_forall none, plain_iff_exists_map]
  constructor
  · intro h
    obtain ⟨count, φs, premises⟩ := h
    exact ⟨φs, premises, by rw [← count, premises, List.length_map]⟩
  · intro h
    obtain ⟨φs, premises, count⟩ := h
    exact ⟨by rw [premises, List.length_map, count], φs, premises⟩

end Rule

end NaturalDeduction
