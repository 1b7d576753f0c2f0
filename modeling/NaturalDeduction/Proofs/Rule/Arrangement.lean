import Mathlib.Data.List.Perm.Basic
import Mathlib.Data.String.Basic
import NaturalDeduction.Proofs.Rule.EitherOrder

/-!
# What comes of trying every order

The arrangements of a list are its permutations. A check that is tried on all of them accepts when
it accepts one, and else reports what it has against them. Which reasons are found, and how often,
depends on the order that the list is given in; but the report tells no more than which texts the
reasons have, so its own text does not.
-/

namespace NaturalDeduction

/-! ## Arrangements are permutations -/

section Arrangements

variable {α : Type} {as bs : List α}

/-- The arrangements are the permutations. -/
theorem mem_arrangementsOf {n : Nat} (count : as.length = n) :
    bs ∈ arrangementsOf n as ↔ bs.Perm as := by
  induction n generalizing as bs with
  | zero =>
    rw [List.eq_nil_of_length_eq_zero count, List.perm_nil, arrangementsOf, List.mem_singleton]
  | succ n ih =>
    simp only [arrangementsOf, List.mem_flatMap, List.mem_map, Prod.exists, mem_picks]
    constructor
    · intro h
      obtain ⟨a, _, ⟨front, back, rfl, rfl⟩, cs, inside, rfl⟩ := h
      have rest : (front ++ back).length = n := by
        simp only [List.length_append, List.length_cons] at count ⊢
        omega
      exact ((ih rest).mp inside).cons a |>.trans List.perm_middle.symm
    · intro perm
      cases bs with
      | nil => rw [← perm.length_eq] at count; cases count
      | cons b cs =>
        obtain ⟨front, back, rfl⟩ := List.append_of_mem (perm.mem_iff.mp List.mem_cons_self)
        have rest : (front ++ back).length = n := by
          simp only [List.length_append, List.length_cons] at count ⊢
          omega
        have tail : cs.Perm (front ++ back) := (perm.trans List.perm_middle).cons_inv
        exact ⟨b, _, ⟨front, back, rfl, rfl⟩, cs, (ih rest).mpr tail, rfl⟩

/-- The arrangements of a list are its permutations. -/
theorem mem_arrangements : bs ∈ arrangements as ↔ bs.Perm as := mem_arrangementsOf rfl

end Arrangements

/-! ## Reports -/

/-- Nothing is left twice once duplicates are erased. -/
theorem nodup_eraseDups {α : Type} [BEq α] [LawfulBEq α] (as : List α) : as.eraseDups.Nodup := by
  -- `eraseDups` goes on with what a filter leaves of the tail, so the induction is on the length.
  induction size : as.length using Nat.strongRecOn generalizing as with
  | ind n ih =>
    cases as with
    | nil => exact List.nodup_nil
    | cons a as =>
      have fewer : (as.filter fun b => !b == a).length < n := by
        have kept := List.length_filter_le (fun b => !b == a) as
        simp only [List.length_cons] at size
        omega
      rw [List.eraseDups_cons, List.nodup_cons, List.mem_eraseDups]
      exact ⟨by simp, ih _ fewer _ rfl⟩

namespace Diagnostic

variable {ss ts : List String} {t : String}

/-- Sorting and dropping repetitions keeps the members. -/
theorem mem_distinctSorted : t ∈ distinctSorted ts ↔ t ∈ ts := by
  rw [distinctSorted, List.mem_mergeSort, List.mem_eraseDups]

/-- The texts are in increasing order, so none is repeated. -/
theorem pairwise_distinctSorted (ts : List String) : (distinctSorted ts).Pairwise (· < ·) := by
  have transitive (s t u : String) (first : decide (s ≤ t) = true) (second : decide (t ≤ u) = true) :
      decide (s ≤ u) = true :=
    decide_eq_true (le_trans (of_decide_eq_true first) (of_decide_eq_true second))
  have total (s t : String) : (decide (s ≤ t) || decide (t ≤ s)) = true := by
    rw [Bool.or_eq_true, decide_eq_true_iff, decide_eq_true_iff]
    exact le_total s t
  have ordered := List.pairwise_mergeSort transitive total ts.eraseDups
  have distinct : (distinctSorted ts).Nodup :=
    (List.mergeSort_perm _ _).nodup_iff.mpr (nodup_eraseDups ts)
  exact (ordered.and distinct).imp fun both =>
    lt_of_le_of_ne (of_decide_eq_true both.1) both.2

/-- Texts that are the same, however often and in whatever order they are given, come out as the
same list. -/
theorem distinctSorted_congr (same : ∀ t, t ∈ ss ↔ t ∈ ts) :
    distinctSorted ss = distinctSorted ts := by
  have nodup (us : List String) : (distinctSorted us).Nodup :=
    (pairwise_distinctSorted us).imp fun lt => ne_of_lt lt
  refine List.Perm.eq_of_pairwise (fun _ _ _ _ first second => absurd second (lt_asymm first))
    (pairwise_distinctSorted ss) (pairwise_distinctSorted ts) ?_
  rw [List.perm_ext_iff_of_nodup (nodup ss) (nodup ts)]
  intro t
  rw [mem_distinctSorted, mem_distinctSorted, same]

end Diagnostic

namespace Outcome

variable {fallthrough : Diagnostic} {ds es : List Diagnostic} {t : String}

/-- Reasons that all have one text are reported by that text. -/
theorem message_report_of_forall (given : ds ≠ []) (same : ∀ d ∈ ds, d.message = t) :
    (report fallthrough ds).message = t := by
  cases ds with
  | nil => exact absurd rfl given
  | cons d ds =>
    have all : ds.all (·.message = d.message) = true := by
      rw [List.all_eq_true]
      intro e mem
      rw [decide_eq_true_eq, same e (List.mem_cons_of_mem d mem), same d List.mem_cons_self]
    rw [report, if_pos all]
    exact same d List.mem_cons_self

/-- Reasons of different texts are reported together. -/
theorem report_of_ne {d e : Diagnostic} (first : d ∈ ds) (second : e ∈ ds)
    (differ : d.message ≠ e.message) : report fallthrough ds = .anyOf ds := by
  cases ds with
  | nil => cases first
  | cons head rest =>
    have several : ¬rest.all (·.message = head.message) = true := by
      intro all
      have one : ∀ f ∈ head :: rest, f.message = head.message := by
        simpa using all
      exact differ ((one d first).trans (one e second).symm)
    rw [report, if_neg several]

/-- The text of a report depends on nothing but the texts of the reasons. -/
theorem message_report_congr (same : ∀ t, t ∈ ds.map Diagnostic.message ↔
    t ∈ es.map Diagnostic.message) :
    (report fallthrough ds).message = (report fallthrough es).message := by
  cases ds with
  | nil =>
    have none : es = [] := by
      apply List.map_eq_nil_iff.mp
      exact List.eq_nil_iff_forall_not_mem.mpr fun t mem => nomatch (same t).mpr mem
    rw [none]
  | cons d rest =>
    by_cases one : ∀ e ∈ d :: rest, e.message = d.message
    · have given : es ≠ [] := by
        rintro rfl
        exact nomatch (same d.message).mp (List.mem_map_of_mem List.mem_cons_self)
      have one' : ∀ e ∈ es, e.message = d.message := by
        intro e mem
        obtain ⟨f, inside, text⟩ := List.mem_map.mp ((same _).mpr (List.mem_map_of_mem mem))
        rw [← text, one f inside]
      rw [message_report_of_forall (List.cons_ne_nil d rest) one,
        message_report_of_forall given one']
    · simp only [not_forall] at one
      obtain ⟨e, mem, differ⟩ := one
      obtain ⟨f, inside, textf⟩ :=
        List.mem_map.mp ((same _).mp (List.mem_map_of_mem (f := Diagnostic.message) mem))
      obtain ⟨g, inside', textg⟩ := List.mem_map.mp
        ((same _).mp (List.mem_map_of_mem (f := Diagnostic.message) (List.mem_cons_self (a := d))))
      rw [report_of_ne mem List.mem_cons_self differ,
        report_of_ne inside inside' (by rwa [textf, textg]), Diagnostic.anyOf, Diagnostic.anyOf,
        Diagnostic.distinctSorted_congr same]

/-! ## Trying every order -/

/-- Why an arrangement is rejected, if it is. -/
def reason? : Outcome → Option Diagnostic
  | rejected why => some why
  | valid | wrongOrder => none

theorem reason?_eq_some_iff {o : Outcome} {why : Diagnostic} :
    o.reason? = some why ↔ o = .rejected why := by
  cases o <;> simp [reason?]

variable {check : List Formula → Outcome} {φs ψs : List Formula}

/-- The reasons that a check has against some of the arrangements. -/
def reasons (check : List Formula → Outcome) (rest : List (List Formula)) : List Diagnostic :=
  rest.filterMap fun φs => (check φs).reason?

theorem firstValid_cons (rest : List (List Formula)) (found : List Diagnostic) :
    firstValid (m := Id) check fallthrough (φs :: rest) found =
      match check φs with
      | .valid => none
      | .wrongOrder => firstValid (m := Id) check fallthrough rest found
      | .rejected why => firstValid (m := Id) check fallthrough rest (found ++ [why]) := rfl

/-- The arrangements are gone through one after the other, and the reasons gathered, until one
arrangement is accepted. -/
theorem firstValid_eq (rest : List (List Formula)) (found : List Diagnostic) :
    firstValid (m := Id) check fallthrough rest found =
      if ∃ φs ∈ rest, check φs = .valid then none
      else some (report fallthrough (found ++ reasons check rest)) := by
  induction rest generalizing found with
  | nil =>
    have none : firstValid (m := Id) check fallthrough [] found =
        some (report fallthrough found) := rfl
    simp [none, reasons]
  | cons φs rest ih =>
    rw [firstValid_cons]
    cases said : check φs with
    | valid => simp [said]
    | wrongOrder => simp [ih, said, reasons, reason?]
    | rejected why => simp [ih, said, reasons, reason?]

/-- The text is that of a reason for which some order of the formulas is rejected. -/
def IsReason (check : List Formula → Outcome) (φs : List Formula) (text : String) : Prop :=
  ∃ ψs why, ψs.Perm φs ∧ check ψs = .rejected why ∧ why.message = text

/-- The reasons that are found are those of some order of the formulas. -/
theorem mem_reasons_iff {d : Diagnostic} :
    d ∈ reasons check (arrangements φs) ↔ ∃ ψs, ψs.Perm φs ∧ check ψs = .rejected d := by
  simp only [reasons, List.mem_filterMap, mem_arrangements, reason?_eq_some_iff]

theorem mem_texts_iff :
    t ∈ (reasons check (arrangements φs)).map Diagnostic.message ↔ IsReason check φs t := by
  simp only [List.mem_map, mem_reasons_iff, IsReason]
  constructor
  · intro h
    obtain ⟨d, ⟨χs, perm, said⟩, text⟩ := h
    exact ⟨χs, d, perm, said, text⟩
  · intro h
    obtain ⟨χs, d, perm, said, text⟩ := h
    exact ⟨d, ⟨χs, perm, said⟩, text⟩

/-- Reasons do not depend on the order in which the formulas are given. -/
theorem IsReason.of_perm (perm : ψs.Perm φs) (reason : IsReason check ψs t) :
    IsReason check φs t := by
  obtain ⟨χs, why, arranged, said, text⟩ := reason
  exact ⟨χs, why, arranged.trans perm, said, text⟩

end Outcome

section AnyOrder

open Outcome

variable {check : List Formula → Outcome} {fallthrough : Diagnostic} {φs ψs : List Formula}

theorem anyOrder_eq :
    anyOrder (m := Id) check fallthrough φs =
      if ∃ ψs ∈ arrangements φs, check ψs = .valid then none
      else some (report fallthrough (reasons check (arrangements φs))) := by
  rw [anyOrder, firstValid_eq, List.nil_append]

/-- A check that is tried on every order accepts when it accepts some order. -/
theorem anyOrder_eq_none_iff :
    anyOrder (m := Id) check fallthrough φs = none ↔ ∃ ψs, ψs.Perm φs ∧ check ψs = .valid := by
  simp only [← mem_arrangements]
  rw [anyOrder_eq]
  split
  next accepted => exact iff_of_true rfl accepted
  next refused => exact iff_of_false nofun refused

/-- Where no order is valid, the reasons of all orders are reported. -/
theorem anyOrder_eq_report (refused : ∀ ψs, ψs.Perm φs → check ψs ≠ .valid) :
    anyOrder (m := Id) check fallthrough φs =
      some (report fallthrough (reasons check (arrangements φs))) := by
  rw [anyOrder_eq, if_neg]
  intro accepted
  obtain ⟨ψs, mem, valid⟩ := accepted
  exact refused ψs (mem_arrangements.mp mem) valid

/-- Where no order is the right one, the fallthrough is the answer. -/
theorem anyOrder_eq_fallthrough (wrong : ∀ ψs, ψs.Perm φs → check ψs = .wrongOrder) :
    anyOrder (m := Id) check fallthrough φs = some fallthrough := by
  have none : reasons check (arrangements φs) = [] := by
    refine List.eq_nil_iff_forall_not_mem.mpr fun d mem => ?_
    obtain ⟨ψs, perm, said⟩ := mem_reasons_iff.mp mem
    cases (wrong ψs perm).symm.trans said
  have refused : ∀ ψs, ψs.Perm φs → check ψs ≠ .valid := fun ψs perm valid =>
    nomatch (wrong ψs perm).symm.trans valid
  rw [anyOrder_eq_report refused, none, report]

/-- Where all reasons have one text, that is the text of the answer. -/
theorem message_anyOrder_of_single {t : String}
    (refused : ∀ ψs, ψs.Perm φs → check ψs ≠ .valid)
    (single : ∀ s, IsReason check φs s ↔ s = t) :
    (anyOrder (m := Id) check fallthrough φs).map Diagnostic.message = some t := by
  have given : reasons check (arrangements φs) ≠ [] := by
    intro none
    have mem := mem_texts_iff.mpr ((single t).mpr rfl)
    rw [none] at mem
    cases mem
  rw [anyOrder_eq_report refused, Option.map_some, message_report_of_forall given]
  intro d mem
  exact (single _).mp (mem_texts_iff.mp (List.mem_map_of_mem mem))

/-- Where reasons have different texts, the answer lists the texts, each once and in order. -/
theorem anyOrder_of_several {s t : String}
    (refused : ∀ ψs, ψs.Perm φs → check ψs ≠ .valid) (first : IsReason check φs s)
    (second : IsReason check φs t) (differ : s ≠ t) :
    ∃ texts : List String, texts.Pairwise (· < ·) ∧ (∀ u, u ∈ texts ↔ IsReason check φs u) ∧
      anyOrder (m := Id) check fallthrough φs = some (.oneOf texts) := by
  obtain ⟨d, inside, rfl⟩ := List.mem_map.mp (mem_texts_iff.mpr first)
  obtain ⟨e, inside', rfl⟩ := List.mem_map.mp (mem_texts_iff.mpr second)
  refine ⟨Diagnostic.distinctSorted ((reasons check (arrangements φs)).map Diagnostic.message),
    Diagnostic.pairwise_distinctSorted _, fun u => ?_, ?_⟩
  · rw [Diagnostic.mem_distinctSorted, mem_texts_iff]
  · rw [anyOrder_eq_report refused, report_of_ne inside inside' differ, Diagnostic.anyOf]

/-- The answer has the same text whatever order the formulas are given in. -/
theorem message_anyOrder_perm (perm : ψs.Perm φs) :
    (anyOrder (m := Id) check fallthrough ψs).map Diagnostic.message =
      (anyOrder (m := Id) check fallthrough φs).map Diagnostic.message := by
  by_cases accepted : ∃ χs, χs.Perm φs ∧ check χs = .valid
  · obtain ⟨χs, arranged, valid⟩ := accepted
    rw [anyOrder_eq_none_iff.mpr ⟨χs, arranged.trans perm.symm, valid⟩,
      anyOrder_eq_none_iff.mpr ⟨χs, arranged, valid⟩]
  · have refused : ∀ χs, χs.Perm φs → check χs ≠ .valid := fun χs arranged valid =>
      accepted ⟨χs, arranged, valid⟩
    have refused' : ∀ χs, χs.Perm ψs → check χs ≠ .valid := fun χs arranged =>
      refused χs (arranged.trans perm)
    rw [anyOrder_eq_report refused, anyOrder_eq_report refused']
    refine congrArg some (message_report_congr fun t => ?_)
    rw [mem_texts_iff, mem_texts_iff]
    exact ⟨.of_perm perm, .of_perm perm.symm⟩

end AnyOrder

end NaturalDeduction
