import Mathlib.Data.List.Basic
import Mathlib.Data.List.Induction
import NaturalDeduction.Suggestions

/-!
# What suggestions are handed out

Every suggestion that is handed out uses up a formula that was pending, so no more can be had than
formulas are pending. What is handed out are the texts of the pending formulas in their order, each
once, up to the number that is left; `Suggestions.remaining` is that list, and taking suggestions
takes from its front.
-/

namespace NaturalDeduction.Suggestions

theorem firstNew_length_lt {offered : List String} {φs rest : List Formula} {text : String}
    (h : firstNew offered φs = some (text, rest)) : rest.length < φs.length := by
  induction φs with
  | nil => cases h
  | cons φ φs ih =>
    rw [firstNew] at h
    split at h
    · exact Nat.lt_succ_of_lt (ih h)
    · cases h
      exact Nat.lt_succ_self _

theorem pending_length_lt_of_next? {s rest : Suggestions} {text : String}
    (h : s.next? = some (text, rest)) : rest.pending.length < s.pending.length := by
  unfold next? at h
  split at h
  next => cases h
  next =>
    split at h
    next => cases h
    next found =>
      cases h
      exact firstNew_length_lt found

/-- Nothing is left after as many suggestions as formulas were pending. -/
theorem next?_take_eq_none {n : Nat} {s : Suggestions} (enough : s.pending.length ≤ n) :
    (s.take n).2.next? = none := by
  induction n generalizing s with
  | zero =>
    cases next : s.next? with
    | none => exact next
    | some found =>
      have used := pending_length_lt_of_next? next
      exact absurd enough (Nat.not_le_of_lt (Nat.zero_lt_of_lt used))
  | succ n ih =>
    rw [take]
    cases next : s.next? with
    | none => exact next
    | some found =>
      have used := pending_length_lt_of_next? next
      exact ih (Nat.le_of_lt_succ (Nat.lt_of_lt_of_le used enough))

/-- No more suggestions are handed out than formulas were pending. -/
theorem length_take_le_pending (n : Nat) (s : Suggestions) :
    (s.take n).1.length ≤ s.pending.length := by
  induction n generalizing s with
  | zero => exact Nat.zero_le _
  | succ n ih =>
    rw [take]
    cases next : s.next? with
    | none => exact Nat.zero_le _
    | some found =>
      have used := pending_length_lt_of_next? next
      exact Nat.le_trans (Nat.succ_le_succ (ih found.2)) used

/-! ## The texts that are to come -/

/-- The texts of formulas that have not been offered. -/
def unseen (offered : List String) (φs : List Formula) : List String :=
  (φs.map Formula.text).filter (· ∉ offered)

/-- The texts that are to come: each unseen one once, as many as may be handed out. -/
def remaining (s : Suggestions) : List String :=
  (unseen s.offered s.pending).eraseDups.take s.left

/-- Of the formulas that are left, those whose text has been offered do not count. -/
theorem unseen_cons (offered : List String) (φ : Formula) (φs : List Formula) :
    unseen offered (φ :: φs) =
      if φ.text ∈ offered then unseen offered φs else φ.text :: unseen offered φs := by
  by_cases seen : φ.text ∈ offered
  · simp [unseen, seen]
  · simp [unseen, seen]

/-- Where no formula has a new text, nothing is unseen. -/
theorem unseen_eq_nil_of_firstNew {offered : List String} {φs : List Formula}
    (h : firstNew offered φs = none) : unseen offered φs = [] := by
  induction φs with
  | nil => rfl
  | cons φ φs ih =>
    rw [firstNew] at h
    split at h
    next seen => rw [unseen_cons, if_pos seen, ih h]
    next => cases h

theorem unseen_eq_cons_of_firstNew {offered : List String} {φs rest : List Formula}
    {text : String} (h : firstNew offered φs = some (text, rest)) :
    unseen offered φs = text :: unseen offered rest := by
  induction φs with
  | nil => cases h
  | cons φ φs ih =>
    rw [firstNew] at h
    split at h
    next seen => rw [unseen_cons, if_pos seen, ih h]
    next new =>
      cases h
      rw [unseen_cons, if_neg new]

/-- Offering a text takes it out of what is unseen. -/
theorem unseen_filter (offered : List String) (text : String) (φs : List Formula) :
    (unseen offered φs).filter (fun t => !t == text) = unseen (text :: offered) φs := by
  simp only [unseen, List.filter_filter]
  refine List.filter_congr fun t _ => ?_
  by_cases new : t = text <;> simp [new]

/-- Where there is no next suggestion, nothing remains. -/
theorem remaining_eq_nil_of_next? {s : Suggestions} (h : s.next? = none) : s.remaining = [] := by
  unfold next? at h
  split at h
  next none => simp [remaining, none]
  next =>
    split at h
    next none => simp [remaining, unseen_eq_nil_of_firstNew none]
    next => cases h

/-- The next suggestion is the first of those to come, and the others come after it. -/
theorem remaining_eq_cons_of_next? {s rest : Suggestions} {text : String}
    (h : s.next? = some (text, rest)) : s.remaining = text :: rest.remaining := by
  unfold next? at h
  split at h
  next => cases h
  next left more =>
    split at h
    next => cases h
    next found =>
      cases h
      simp only [remaining, more, unseen_eq_cons_of_firstNew found, List.eraseDups_cons,
        List.take_succ_cons, unseen_filter]

/-- Taking suggestions takes the first of those to come. -/
theorem take_eq_take_remaining (n : Nat) (s : Suggestions) :
    (s.take n).1 = s.remaining.take n := by
  induction n generalizing s with
  | zero => simp [take]
  | succ n ih =>
    rw [take]
    cases next : s.next? with
    | none => simp [remaining_eq_nil_of_next? next]
    | some found =>
      obtain ⟨text, rest⟩ := found
      simp [remaining_eq_cons_of_next? next, ih]

/-- Suggestions that nothing has been taken from are the distinct texts, cut to their number. -/
theorem remaining_fresh (φs : List Formula) (left : Nat) :
    remaining { pending := φs, left } = (texts φs).take left := by
  have all : unseen [] φs = φs.map Formula.text := List.filter_eq_self.mpr (by simp)
  simp [remaining, all, texts]

/-- From fresh suggestions one takes the distinct texts, as many as are allowed and asked for. -/
theorem take_fresh (φs : List Formula) (left n : Nat) :
    (take n { pending := φs, left }).1 = ((texts φs).take left).take n := by
  rw [take_eq_take_remaining, remaining_fresh]

/-- Once there is no next suggestion, taking gives nothing and changes nothing. -/
theorem take_of_next?_eq_none {s : Suggestions} (none : s.next? = none) (n : Nat) :
    s.take n = ([], s) := by
  cases n with
  | zero => rfl
  | succ n => rw [take, none]

/-- Taking in two goes takes what one go takes, and leaves the same. -/
theorem take_add (m n : Nat) (s : Suggestions) :
    s.take (m + n) =
      ((s.take m).1 ++ ((s.take m).2.take n).1, ((s.take m).2.take n).2) := by
  induction m generalizing s with
  | zero => rw [Nat.zero_add, take, List.nil_append]
  | succ m ih =>
    rw [Nat.add_right_comm]
    cases next : s.next? with
    | none => simp only [take_of_next?_eq_none next, List.append_nil]
    | some found => simp only [take, next, ih, List.cons_append]

/-- Whoever gets fewer suggestions than asked for has got the last of them. -/
theorem next?_take_of_short {n : Nat} {s : Suggestions} (short : (s.take n).1.length < n) :
    (s.take n).2.next? = none := by
  induction n generalizing s with
  | zero => exact absurd short (Nat.not_lt_zero _)
  | succ n ih =>
    unfold take at short ⊢
    cases next : s.next? with
    | none => exact next
    | some found =>
      rw [next] at short
      exact ih (Nat.lt_of_succ_lt_succ short)

/-! ## Distinct texts in their order -/

/-- The texts are those of the formulas. -/
theorem mem_texts {φs : List Formula} {text : String} :
    text ∈ texts φs ↔ text ∈ φs.map Formula.text := List.mem_eraseDups

/-- A further formula adds its text at the end, unless it is there already. -/
theorem texts_append_singleton (φs : List Formula) (φ : Formula) :
    texts (φs ++ [φ]) = if φ.text ∈ texts φs then texts φs else texts φs ++ [φ.text] := by
  have split : texts (φs ++ [φ]) =
      texts φs ++ ([φ.text].removeAll (φs.map Formula.text)).eraseDups := by
    rw [texts, List.map_append, List.eraseDups_append]
    rfl
  rw [split, List.cons_removeAll, List.nil_removeAll]
  by_cases seen : φ.text ∈ texts φs
  · rw [if_pos seen, if_neg (by simpa using mem_texts.mp seen), List.eraseDups_nil, List.append_nil]
  · rw [if_neg seen, if_pos (by simpa using mt mem_texts.mpr seen), List.eraseDups_cons]
    rfl

/-- The distinct texts stand in the order in which they first occur. -/
theorem texts_pairwise (φs : List Formula) :
    (texts φs).Pairwise fun t u =>
      (φs.map Formula.text).idxOf t < (φs.map Formula.text).idxOf u := by
  -- A further formula leaves the first occurrences where they are, so it is added at the end.
  induction φs using List.reverseRecOn with
  | nil => exact .nil
  | append_singleton φs φ ih =>
    have kept {t : String} (mem : t ∈ texts φs) :
        ((φs ++ [φ]).map Formula.text).idxOf t = (φs.map Formula.text).idxOf t := by
      rw [List.map_append, List.idxOf_append_of_mem (mem_texts.mp mem)]
    have earlier : (texts φs).Pairwise fun t u =>
        ((φs ++ [φ]).map Formula.text).idxOf t < ((φs ++ [φ]).map Formula.text).idxOf u := by
      refine List.Pairwise.imp_of_mem (fun memT memU before => ?_) ih
      rw [kept memT, kept memU]
      exact before
    rw [texts_append_singleton]
    split
    next => exact earlier
    next new =>
      refine List.pairwise_append.mpr ⟨earlier, List.pairwise_singleton _ _, ?_⟩
      intro t memT u memU
      obtain rfl := List.mem_singleton.mp memU
      rw [kept memT, List.map_append, List.idxOf_append, if_neg (mt mem_texts.mpr new)]
      have inside := List.idxOf_lt_length_of_mem (mem_texts.mp memT)
      omega

/-- The members of a list, each of them once, in the order in which they first occur in it. -/
structure FirstOccurrences (all firsts : List String) : Prop where
  mem_iff : ∀ t, t ∈ firsts ↔ t ∈ all
  nodup : firsts.Nodup
  ordered : firsts.Pairwise fun t u => all.idxOf t < all.idxOf u

/-- The texts of formulas are their first occurrences. -/
theorem firstOccurrences_texts (φs : List Formula) :
    FirstOccurrences (φs.map Formula.text) (texts φs) where
  mem_iff _ := mem_texts
  nodup := by
    refine (texts_pairwise φs).imp fun before same => ?_
    rw [same] at before
    exact Nat.lt_irrefl _ before
  ordered := texts_pairwise φs

/-! ## Distinct texts and distinct formulas -/

/-- Where no two formulas share a text, the distinct texts are those of the distinct formulas. -/
theorem texts_eq_map_eraseDups {φs : List Formula}
    (apart : ∀ φ ∈ φs, ∀ ψ ∈ φs, φ.text = ψ.text → φ = ψ) :
    texts φs = φs.eraseDups.map Formula.text := by
  -- `eraseDups` goes on with what a filter leaves of the tail, so the induction is on the length.
  induction size : φs.length using Nat.strongRecOn generalizing φs with
  | ind n ih =>
    cases φs with
    | nil => simp [texts]
    | cons φ φs =>
      have others : φs.filter (fun ψ => !ψ.text == φ.text) = φs.filter (fun ψ => !ψ == φ) := by
        refine List.filter_congr fun ψ mem => ?_
        have same : ψ.text = φ.text ↔ ψ = φ :=
          ⟨apart ψ (List.mem_cons_of_mem φ mem) φ List.mem_cons_self, congrArg Formula.text⟩
        rw [Bool.beq_eq_decide_eq, Bool.beq_eq_decide_eq]
        simp only [same]
      have fewer : (φs.filter fun ψ => !ψ == φ).length < n := by
        have kept := List.length_filter_le (fun ψ => !ψ == φ) φs
        simp only [List.length_cons] at size
        omega
      have within : ∀ ψ ∈ φs.filter (fun ψ => !ψ == φ), ψ ∈ φ :: φs := fun ψ mem =>
        List.mem_cons_of_mem φ (List.mem_filter.mp mem).1
      have rest := ih _ fewer (fun ψ mem χ mem' => apart ψ (within ψ mem) χ (within χ mem')) rfl
      simp only [texts] at rest ⊢
      rw [List.map_cons, List.eraseDups_cons, List.eraseDups_cons, List.map_cons, ← rest,
        List.filter_map]
      simp only [Function.comp_def, others]

end NaturalDeduction.Suggestions
