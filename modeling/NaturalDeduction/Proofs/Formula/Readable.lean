import Mathlib.Data.List.Basic
import NaturalDeduction.Formula.Written
import NaturalDeduction.Proofs.Formula.Atoms

/-!
# Written formulas can be read in one way only

The writing of an operand shows where it ends: a name ends before the first mark, a negation where
its operand does, and a compound at its closing parenthesis. So two operands written at the head of
the same text are the same operand, and what follows them is the same too. A formula is written as
a chain of operands with one symbol between each two; reading the chain operand by operand gives
back the operands and, since the first letters of the symbols differ in either script, the symbol.

This needs names that contain no mark. Other blanks, and the symbols that stand between operands,
may occur in a name: the blanks around a symbol tell it from a name.
-/

namespace NaturalDeduction

/-! ## Plain names -/

/-- The marks that end a name or begin what is not a name. -/
def marks : List Char := [' ', ',', '(', ')', '[', ']', '⊢', '¬', '~']

/-- A name that is not empty and contains no mark. -/
def IsPlainName (n : String) : Prop := n ≠ "" ∧ ∀ x ∈ n.toList, x ∉ marks

instance : DecidablePred IsPlainName := fun n =>
  -- Only the letters of the name are gone through, not every letter that there is.
  @instDecidableAnd (n ≠ "") (∀ x ∈ n.toList, x ∉ marks) _ (List.decidableBAll _ _)

namespace Formula

/-- A well-formed formula whose atoms have plain names. -/
structure Legible (φ : Formula) : Prop where
  wellFormed : φ.WellFormed
  plain : ∀ n ∈ φ.atoms, IsPlainName n

instance : DecidablePred Legible := fun φ =>
  decidable_of_iff (φ.WellFormed ∧ ∀ n ∈ φ.atoms, IsPlainName n)
    ⟨fun h => ⟨h.1, h.2⟩, fun h => ⟨h.wellFormed, h.plain⟩⟩

variable {φ ψ : Formula}

/-- The operands of a legible formula are legible. -/
theorem Legible.of_mem_operands (legible : φ.Legible) (mem : ψ ∈ φ.operands) : ψ.Legible := by
  have compound : ∀ n, φ ≠ .atom n := by
    rintro n rfl
    cases mem
  refine ⟨?_, fun n inside => legible.plain n ?_⟩
  · cases legible.wellFormed with
    | atom named => cases mem
    | neg wf => exact List.mem_singleton.mp mem ▸ wf
    | junction two each => exact each ψ mem
    | imp wfφ wfψ =>
      rcases List.mem_pair.mp mem with rfl | rfl
      · exact wfφ
      · exact wfψ
    | iff wfφ wfψ =>
      rcases List.mem_pair.mp mem with rfl | rfl
      · exact wfφ
      · exact wfψ
  · rw [atoms_eq_flatMap_operands compound]
    exact List.mem_flatMap.mpr ⟨ψ, mem, inside⟩

/-! ## Formulas as chains of operands -/

/-- The operands that a written formula is a chain of: its own ones if they are joined by a symbol,
else itself alone. -/
def links (φ : Formula) : List Formula :=
  if φ.connective.needsParentheses then φ.operands else [φ]

variable (script : Script)

/-- The letters of a formula. -/
def letters (φ : Formula) : List Char := (φ.render script).toList

/-- The letters of a formula as an operand. -/
def operandLetters (φ : Formula) : List Char := (φ.parenthesise (φ.render script)).toList

/-- A connective's symbol with the blanks around it. -/
def spacedSymbol (c : Connective) : List Char := ' ' :: (c.symbol script).toList ++ [' ']

/-- The letters of a chain of operands. -/
def chainLetters (c : Connective) (φs : List Formula) : List Char :=
  (spacedSymbol script c).intercalate (φs.map (operandLetters script))

/-- The sign that stands before what is negated. -/
def negationSign : Script → Char
  | .logical => '¬'
  | .ascii => '~'

theorem renderOperands_eq_map (φs : List Formula) :
    renderOperands script φs = φs.map fun φ => φ.parenthesise (φ.render script) := by
  induction φs with
  | nil => rfl
  | cons φ φs ih => simp [renderOperands, ih]

theorem operandLetters_atom (n : String) : operandLetters script (.atom n) = n.toList := by
  simp [operandLetters, parenthesise, render, connective, Connective.needsParentheses,
    Connective.precedence]

theorem letters_neg (φ : Formula) :
    letters script (.neg φ) = negationSign script :: operandLetters script φ := by
  cases script <;> simp [letters, operandLetters, render, Connective.symbol, negationSign]

theorem operandLetters_neg (φ : Formula) :
    operandLetters script (.neg φ) = negationSign script :: operandLetters script φ := by
  rw [← letters_neg]
  simp [operandLetters, letters, parenthesise, connective, Connective.needsParentheses,
    Connective.precedence]

/-- An operand with a connective between its parts stands between parentheses. -/
theorem operandLetters_of_needsParentheses (joined : φ.connective.needsParentheses = true) :
    operandLetters script φ = '(' :: (letters script φ ++ [')']) := by
  simp [operandLetters, letters, parenthesise, joined]

/-- The letters of a formula are those of the chain of its links. -/
theorem letters_eq_chainLetters (φ : Formula) :
    letters script φ = chainLetters script φ.connective φ.links := by
  cases φ with
  | atom n =>
    simp [chainLetters, links, operandLetters_atom, letters, render, connective,
      Connective.needsParentheses, Connective.precedence]
  | neg φ =>
    rw [letters_neg, ← operandLetters_neg]
    simp [chainLetters, links, connective, Connective.needsParentheses, Connective.precedence]
  | junction j φs =>
    have each : φs.map (fun φ => (φ.parenthesise (φ.render script)).toList) =
        φs.map (operandLetters script) := rfl
    cases j <;> simp [chainLetters, links, letters, render, renderOperands_eq_map, connective,
      Junction.connective, Connective.needsParentheses, Connective.precedence, operands,
      spacedSymbol, String.toList_intercalate, Function.comp_def, each]
  | imp φ ψ =>
    simp [chainLetters, links, letters, render, connective, Connective.needsParentheses,
      Connective.precedence, operands, operandLetters, spacedSymbol]
  | iff φ ψ =>
    simp [chainLetters, links, letters, render, connective, Connective.needsParentheses,
      Connective.precedence, operands, operandLetters, spacedSymbol]

/-- The letters of a chain after its first operand: every other one after the symbol. -/
def restLetters (c : Connective) (φs : List Formula) : List Char :=
  φs.flatMap fun φ => spacedSymbol script c ++ operandLetters script φ

@[simp] theorem restLetters_nil (c : Connective) : restLetters script c [] = [] := rfl

theorem restLetters_cons (c : Connective) (φ : Formula) (φs : List Formula) :
    restLetters script c (φ :: φs) =
      spacedSymbol script c ++ (operandLetters script φ ++ restLetters script c φs) := by
  simp [restLetters]

/-- What is joined by a separator is its first part, and every other one after the separator. -/
theorem intercalate_cons {α : Type} (separator part : List α) (parts : List (List α)) :
    separator.intercalate (part :: parts) = part ++ parts.flatMap (separator ++ ·) := by
  induction parts generalizing part with
  | nil => simp
  | cons next parts ih => simp [List.intercalate_cons_cons, ih]

/-- A chain is its first operand and the rest, each with the symbol before it. -/
theorem chainLetters_cons (c : Connective) (φ : Formula) (φs : List Formula) :
    chainLetters script c (φ :: φs) = operandLetters script φ ++ restLetters script c φs := by
  simp only [chainLetters, restLetters, List.map_cons, intercalate_cons, List.flatMap_map]

end Formula

/-! ## Symbols -/

namespace Connective

variable {script : Script} {c d : Connective}

/-- The first letters of the symbols between operands differ, so a symbol shows which it is. -/
theorem symbol_append_inj {s t : List Char} (hc : c.needsParentheses = true)
    (hd : d.needsParentheses = true)
    (same : (c.symbol script).toList ++ s = (d.symbol script).toList ++ t) : c = d ∧ s = t := by
  cases script <;> cases c <;> cases d <;>
    simp_all [symbol, needsParentheses, precedence]

/-- No symbol between operands begins with the turnstile. -/
theorem symbol_ne_turnstile (script : Script) (hc : c.needsParentheses = true) :
    ∃ x rest, (c.symbol script).toList = x :: rest ∧ x ≠ '⊢' := by
  cases script <;> cases c <;> simp_all [symbol, needsParentheses, precedence]

end Connective

/-! ## Reading off -/

namespace Formula

/-- What may follow an operand: nothing, or something that begins with a mark. -/
def Stops (s : List Char) : Prop := ∀ x rest, s = x :: rest → x ∈ marks

/-- What may follow a formula: what may follow an operand and does not go on with a symbol. A blank
is therefore followed by the turnstile. -/
structure Closes (s : List Char) : Prop where
  stops : Stops s
  turnstile : ∀ x rest, s = ' ' :: x :: rest → x = '⊢'

/-- A mark may follow an operand. -/
theorem stops_cons {x : Char} (mark : x ∈ marks) (rest : List Char) : Stops (x :: rest) := by
  intro y rest same
  cases same
  exact mark

theorem closes_nil : Closes [] := ⟨nofun, nofun⟩

/-- A mark other than the blank may follow a formula. -/
theorem closes_cons {x : Char} (mark : x ∈ marks) (other : x ≠ ' ') (rest : List Char) :
    Closes (x :: rest) := by
  refine ⟨stops_cons mark rest, ?_⟩
  intro y rest same
  cases same
  exact absurd rfl other

/-- A blank with the turnstile after it may follow a formula. -/
theorem closes_turnstile (rest : List Char) : Closes (' ' :: '⊢' :: rest) := by
  refine ⟨stops_cons (by decide) _, ?_⟩
  intro y rest same
  cases same
  rfl

/-- Letters that are no marks end where the first mark comes. -/
theorem unmarked_append_inj {l m s t : List Char} (hl : ∀ x ∈ l, x ∉ marks)
    (hm : ∀ x ∈ m, x ∉ marks) (hs : Stops s) (ht : Stops t) (same : l ++ s = m ++ t) :
    l = m ∧ s = t := by
  induction l generalizing m with
  | nil =>
    cases m with
    | nil => exact ⟨rfl, same⟩
    | cons y m => exact absurd (hs y (m ++ t) same) (hm y List.mem_cons_self)
  | cons x l ih =>
    cases m with
    | nil => exact absurd (ht x (l ++ s) same.symm) (hl x List.mem_cons_self)
    | cons y m =>
      obtain ⟨rfl, after⟩ := List.cons.inj same
      have tails := ih (fun z mem => hl z (List.mem_cons_of_mem x mem))
        (fun z mem => hm z (List.mem_cons_of_mem x mem)) after
      exact ⟨congrArg (x :: ·) tails.1, tails.2⟩

variable {script : Script} {φ ψ : Formula} {s t : List Char}

/-- Where the operand is written at the head of a text, no other legible operand is, and what
follows it is determined too. -/
def ReadsOff (script : Script) (φ : Formula) : Prop :=
  ∀ (ψ : Formula) (s t : List Char), ψ.Legible → Stops s → Stops t →
    operandLetters script φ ++ s = operandLetters script ψ ++ t → φ = ψ ∧ s = t

/-- A chain that goes on goes on with a blank. -/
theorem stops_restLetters (c : Connective) (φs : List Formula) (hs : Stops s) :
    Stops (restLetters script c φs ++ s) := by
  cases φs with
  | nil => exact hs
  | cons φ φs => exact stops_cons (by decide) _

/-- A chain that closes does not go on. -/
theorem not_closes_spacedSymbol {c : Connective} (joins : c.needsParentheses = true)
    (rest : List Char) : ¬Closes (spacedSymbol script c ++ rest) := by
  intro closes
  obtain ⟨x, letters, symbol, other⟩ := Connective.symbol_ne_turnstile script joins
  apply other
  apply closes.turnstile x (letters ++ [' '] ++ rest)
  simp [spacedSymbol, symbol]

/-- The rest of a chain is read operand by operand. -/
theorem restLetters_append_inj {c d : Connective} {φs ψs : List Formula}
    (each : ∀ φ ∈ φs, ReadsOff script φ) (legible : ∀ ψ ∈ ψs, ψ.Legible)
    (hc : φs ≠ [] → c.needsParentheses = true) (hd : ψs ≠ [] → d.needsParentheses = true)
    (hs : Closes s) (ht : Closes t)
    (same : restLetters script c φs ++ s = restLetters script d ψs ++ t) :
    φs = ψs ∧ s = t ∧ (φs ≠ [] → c = d) := by
  induction φs generalizing ψs with
  | nil =>
    cases ψs with
    | nil => exact ⟨rfl, same, fun some => absurd rfl some⟩
    | cons ψ ψs =>
      rw [restLetters_nil, List.nil_append, restLetters_cons, List.append_assoc] at same
      exact absurd (same ▸ hs) (not_closes_spacedSymbol (hd (List.cons_ne_nil ψ ψs)) _)
  | cons φ φs ih =>
    have joins := hc (List.cons_ne_nil φ φs)
    cases ψs with
    | nil =>
      rw [restLetters_nil, List.nil_append, restLetters_cons, List.append_assoc] at same
      exact absurd (same ▸ ht) (not_closes_spacedSymbol joins _)
    | cons ψ ψs =>
      have joins' := hd (List.cons_ne_nil ψ ψs)
      simp only [restLetters_cons, spacedSymbol, List.append_assoc, List.cons_append,
        List.nil_append, List.cons.injEq, true_and] at same
      obtain ⟨rfl, afterSymbol⟩ := Connective.symbol_append_inj joins joins' same
      obtain ⟨rfl, after⟩ := each φ List.mem_cons_self ψ _ _ (legible ψ List.mem_cons_self)
        (stops_restLetters c φs hs.stops) (stops_restLetters c ψs ht.stops)
        (List.cons.inj afterSymbol).2
      obtain ⟨rfl, rest, -⟩ := ih (fun χ mem => each χ (List.mem_cons_of_mem φ mem))
        (fun χ mem => legible χ (List.mem_cons_of_mem φ mem)) (fun _ => joins) (fun _ => joins) after
      exact ⟨rfl, rest, fun _ => rfl⟩

/-- A legible formula is one link, or a chain of two or more. -/
theorem Legible.links_cases (legible : φ.Legible) :
    φ.links = [φ] ∨ φ.connective.needsParentheses = true ∧ φ.links = φ.operands ∧
      ∃ a b rest, φ.operands = a :: b :: rest := by
  cases joined : φ.connective.needsParentheses with
  | false => exact .inl (by simp [links, joined])
  | true =>
    refine .inr ⟨rfl, by simp [links, joined], ?_⟩
    cases legible.wellFormed with
    | atom named => cases joined
    | neg wf => cases joined
    | @junction j φs two each =>
      rcases φs with _ | ⟨a, _ | ⟨b, rest⟩⟩
      · simp at two
      · simp at two
      · exact ⟨a, b, rest, rfl⟩
    | imp wfφ wfψ => exact ⟨_, _, [], rfl⟩
    | iff wfφ wfψ => exact ⟨_, _, [], rfl⟩

theorem Legible.of_mem_links (legible : φ.Legible) (mem : ψ ∈ φ.links) : ψ.Legible := by
  rcases legible.links_cases with single | ⟨-, chain, -⟩
  · rw [single] at mem
    exact List.mem_singleton.mp mem ▸ legible
  · rw [chain] at mem
    exact legible.of_mem_operands mem

/-- A legible formula is a chain of one link at least. -/
theorem Legible.exists_links (legible : φ.Legible) : ∃ first rest, φ.links = first :: rest := by
  rcases legible.links_cases with single | ⟨-, chain, a, b, rest, operands⟩
  · exact ⟨φ, [], single⟩
  · exact ⟨a, b :: rest, chain.trans operands⟩

/-- Where there is more than one link, a symbol joins them. -/
theorem Legible.joins {first : Formula} {rest : List Formula} (legible : φ.Legible)
    (links : φ.links = first :: rest) (more : rest ≠ []) :
    φ.connective.needsParentheses = true := by
  rcases legible.links_cases with single | ⟨joined, -⟩
  · rw [single] at links
    exact absurd (List.cons.inj links).2.symm more
  · exact joined

/-- A compound is determined by its connective and its operands. -/
theorem eq_of_operands_eq (joined : φ.connective.needsParentheses = true)
    (connectives : φ.connective = ψ.connective) (operands : φ.operands = ψ.operands) : φ = ψ := by
  cases φ with
  | junction j φs =>
    cases ψ with
    | junction k ψs =>
      cases j <;> cases k <;> simp_all [connective, Junction.connective, Formula.operands]
    | _ => cases j <;> simp_all [connective, Junction.connective]
  | atom n => cases joined
  | neg φ => cases joined
  | imp a b =>
    cases ψ with
    | junction k ψs => cases k <;> simp_all [connective, Junction.connective]
    | _ => simp_all [connective, Formula.operands]
  | iff a b =>
    cases ψ with
    | junction k ψs => cases k <;> simp_all [connective, Junction.connective]
    | _ => simp_all [connective, Formula.operands]

/-- Formulas that are chains of the same links, joined alike if they are joined, are the same. -/
theorem eq_of_links_eq {first : Formula} {rest : List Formula} (hφ : φ.Legible) (hψ : ψ.Legible)
    (linksφ : φ.links = first :: rest) (linksψ : ψ.links = first :: rest)
    (joins : rest ≠ [] → φ.connective = ψ.connective) : φ = ψ := by
  rcases hφ.links_cases with single | ⟨joined, chain, a, b, others, operands⟩
  · rcases hψ.links_cases with single' | ⟨-, chain', a', b', others', operands'⟩
    · have same : [φ] = [ψ] := by rw [← single, ← single', linksφ, linksψ]
      exact List.singleton_inj.mp same
    · have same : [φ] = a' :: b' :: others' := by
        rw [← operands', ← chain', linksψ, ← linksφ, single]
      simp at same
  · rcases hψ.links_cases with single' | ⟨-, chain', -⟩
    · have same : [ψ] = a :: b :: others := by
        rw [← operands, ← chain, linksφ, ← linksψ, single']
      simp at same
    · have same : φ.operands = ψ.operands := by rw [← chain, ← chain', linksφ, linksψ]
      have more : rest ≠ [] := by
        rintro rfl
        rw [chain, operands] at linksφ
        simp at linksφ
      exact eq_of_operands_eq joined (joins more) same

/-- If the links of a formula can be read off, the whole formula can be where it closes. -/
theorem letters_append_inj_of_links (each : ∀ χ ∈ φ.links, ReadsOff script χ) (hφ : φ.Legible)
    (hψ : ψ.Legible) (hs : Closes s) (ht : Closes t)
    (same : letters script φ ++ s = letters script ψ ++ t) : φ = ψ ∧ s = t := by
  obtain ⟨first, rest, linksφ⟩ := hφ.exists_links
  obtain ⟨first', rest', linksψ⟩ := hψ.exists_links
  have legible : ∀ χ ∈ first' :: rest', χ.Legible := fun χ mem => hψ.of_mem_links (linksψ ▸ mem)
  rw [letters_eq_chainLetters, letters_eq_chainLetters, linksφ, linksψ, chainLetters_cons,
    chainLetters_cons, List.append_assoc, List.append_assoc] at same
  rw [linksφ] at each
  obtain ⟨rfl, after⟩ := each first List.mem_cons_self first' _ _
    (legible first' List.mem_cons_self) (stops_restLetters _ rest hs.stops)
    (stops_restLetters _ rest' ht.stops) same
  obtain ⟨rfl, ends, connectives⟩ := restLetters_append_inj
    (fun χ mem => each χ (List.mem_cons_of_mem first mem))
    (fun χ mem => legible χ (List.mem_cons_of_mem first mem)) (hφ.joins linksφ)
    (hψ.joins linksψ) hs ht after
  exact ⟨eq_of_links_eq hφ hψ linksφ linksψ connectives, ends⟩

/-! ## Every legible formula can be read off -/

theorem negationSign_mem_marks (script : Script) : negationSign script ∈ marks := by
  cases script <;> decide

/-- The letters of a name begin with none of the marks. -/
theorem Legible.unmarked {n : String} (legible : (atom n).Legible) : ∀ x ∈ n.toList, x ∉ marks :=
  (legible.plain n (by simp [atoms])).2

theorem Legible.toList_ne_nil {n : String} (legible : (atom n).Legible) : n.toList ≠ [] := by
  intro empty
  exact (legible.plain n (by simp [atoms])).1 (String.toList_eq_nil_iff.mp empty)

/-- What an operand begins with shows whether it is a name, a negation or a compound, and it is
neither a blank nor a bracket. -/
theorem operandLetters_head (script : Script) (legible : φ.Legible) :
    ∃ x rest, operandLetters script φ = x :: rest ∧ ((∃ n, φ = .atom n) ↔ x ∉ marks) ∧
      ((∃ χ, φ = .neg χ) ↔ x = negationSign script) ∧
      (φ.connective.needsParentheses = true ↔ x = '(') ∧ x ≠ ' ' ∧ x ≠ '[' := by
  have sign := negationSign_mem_marks script
  by_cases joined : φ.connective.needsParentheses = true
  · refine ⟨'(', _, operandLetters_of_needsParentheses script joined, ?_, ?_, ?_⟩
    · have compound : ¬∃ n, φ = .atom n := by
        rintro ⟨n, rfl⟩
        cases joined
      simp [compound, marks]
    · have compound : ¬∃ χ, φ = .neg χ := by
        rintro ⟨n, rfl⟩
        cases joined
      cases script <;> simp [compound, negationSign]
    · simp [joined]
  · cases φ with
    | atom n =>
      obtain ⟨x, rest, same⟩ := List.exists_cons_of_ne_nil legible.toList_ne_nil
      have unmarked : x ∉ marks := legible.unmarked x (same ▸ List.mem_cons_self)
      have other {y : Char} (mark : y ∈ marks) : x ≠ y := (ne_of_mem_of_not_mem mark unmarked).symm
      have parenthesis : x ≠ '(' := other (by decide)
      refine ⟨x, rest, (operandLetters_atom script n).trans same, ?_, ?_, ?_, other (by decide),
        other (by decide)⟩
      · simp [unmarked]
      · simp [other sign]
      · simp [joined, parenthesis]
    | neg χ =>
      refine ⟨_, _, operandLetters_neg script χ, ?_⟩
      cases script <;> simp [negationSign, joined, marks]
    | junction j φs => cases j <;> exact absurd rfl joined
    | imp a b => exact absurd rfl joined
    | iff a b => exact absurd rfl joined

/-- Operands written at the head of the same text are both names, both negations or both
compounds. -/
theorem kind_iff (hφ : φ.Legible) (hψ : ψ.Legible)
    (same : operandLetters script φ ++ s = operandLetters script ψ ++ t) :
    ((∃ n, φ = .atom n) ↔ ∃ n, ψ = .atom n) ∧ ((∃ χ, φ = .neg χ) ↔ ∃ χ, ψ = .neg χ) ∧
      (φ.connective.needsParentheses = true ↔ ψ.connective.needsParentheses = true) := by
  obtain ⟨x, rest, lettersφ, atomφ, negφ, joinedφ, -⟩ := operandLetters_head script hφ
  obtain ⟨y, rest', lettersψ, atomψ, negψ, joinedψ, -⟩ := operandLetters_head script hψ
  rw [lettersφ, lettersψ] at same
  obtain ⟨rfl, -⟩ := List.cons.inj same
  exact ⟨atomφ.trans atomψ.symm, negφ.trans negψ.symm, joinedφ.trans joinedψ.symm⟩

/-- A compound whose operands can be read off can be read off, since its closing parenthesis shows
where it ends. -/
theorem readsOff_of_operands (joined : φ.connective.needsParentheses = true) (hφ : φ.Legible)
    (each : ∀ χ ∈ φ.operands, χ.Legible → ReadsOff script χ) : ReadsOff script φ := by
  intro ψ s t hψ hs ht same
  have joined' := (kind_iff hφ hψ same).2.2.mp joined
  rw [operandLetters_of_needsParentheses script joined,
    operandLetters_of_needsParentheses script joined'] at same
  simp only [List.cons_append, List.append_assoc, List.nil_append, List.cons.injEq,
    true_and] at same
  have links : ∀ χ ∈ φ.links, ReadsOff script χ := by
    simp only [Formula.links, if_pos joined]
    exact fun χ mem => each χ mem (hφ.of_mem_operands mem)
  obtain ⟨rfl, after⟩ := letters_append_inj_of_links links hφ hψ
    (closes_cons (by decide) (by decide) s) (closes_cons (by decide) (by decide) t) same
  exact ⟨rfl, (List.cons.inj after).2⟩

theorem readsOff_atom {n : String} (hφ : (atom n).Legible) : ReadsOff script (.atom n) := by
  intro ψ s t hψ hs ht same
  obtain ⟨m, rfl⟩ := (kind_iff hφ hψ same).1.mp ⟨n, rfl⟩
  rw [operandLetters_atom, operandLetters_atom] at same
  obtain ⟨names, after⟩ := unmarked_append_inj hφ.unmarked hψ.unmarked hs ht same
  exact ⟨congrArg atom (String.toList_inj.mp names), after⟩

theorem readsOff_neg (hφ : (neg φ).Legible) (each : ReadsOff script φ) :
    ReadsOff script (.neg φ) := by
  intro ψ s t hψ hs ht same
  obtain ⟨χ, rfl⟩ := (kind_iff hφ hψ same).2.1.mp ⟨φ, rfl⟩
  rw [operandLetters_neg, operandLetters_neg] at same
  have legible : χ.Legible := hψ.of_mem_operands List.mem_cons_self
  obtain ⟨rfl, after⟩ := each χ s t legible hs ht (List.cons.inj same).2
  exact ⟨rfl, after⟩

/-- Every legible formula can be read off from the beginning of a text. -/
theorem Legible.readsOff (legible : φ.Legible) : ReadsOff script φ := by
  induction φ using Formula.induction with
  | atom n => exact readsOff_atom legible
  | neg φ ih => exact readsOff_neg legible (ih (legible.of_mem_operands List.mem_cons_self))
  | junction j φs ih =>
    have joined : (junction j φs).connective.needsParentheses = true := by cases j <;> rfl
    exact readsOff_of_operands joined legible ih
  | imp a b iha ihb =>
    apply readsOff_of_operands rfl legible
    exact List.forall_mem_cons.mpr ⟨iha, List.forall_mem_singleton.mpr ihb⟩
  | iff a b iha ihb =>
    apply readsOff_of_operands rfl legible
    exact List.forall_mem_cons.mpr ⟨iha, List.forall_mem_singleton.mpr ihb⟩

/-- Two legible formulas written at the head of the same text are the same, if both close there. -/
theorem letters_append_inj (hφ : φ.Legible) (hψ : ψ.Legible) (hs : Closes s) (ht : Closes t)
    (same : letters script φ ++ s = letters script ψ ++ t) : φ = ψ ∧ s = t :=
  letters_append_inj_of_links (fun _ mem => (hφ.of_mem_links mem).readsOff) hφ hψ hs ht same

/-- A legible formula is determined by its writing in either script. -/
theorem eq_of_render_eq (hφ : φ.Legible) (hψ : ψ.Legible)
    (same : φ.render script = ψ.render script) : φ = ψ := by
  have letters : letters script φ ++ [] = letters script ψ ++ [] := by
    rw [Formula.letters, Formula.letters, same]
  exact (letters_append_inj hφ hψ closes_nil closes_nil letters).1

/-- A formula begins with neither a blank nor a bracket. -/
theorem Legible.letters_head (script : Script) (legible : φ.Legible) :
    ∃ x rest, letters script φ = x :: rest ∧ x ≠ ' ' ∧ x ≠ '[' := by
  obtain ⟨first, others, links⟩ := legible.exists_links
  have firstLegible : first.Legible := legible.of_mem_links (links ▸ List.mem_cons_self)
  obtain ⟨x, rest, letters, -, -, -, other⟩ := operandLetters_head script firstLegible
  refine ⟨x, rest ++ restLetters script φ.connective others, ?_, other⟩
  rw [letters_eq_chainLetters, links, chainLetters_cons, letters]
  rfl

end Formula

end NaturalDeduction
