import NaturalDeduction.Proofs.Safety
import NaturalDeduction.Proofs.Session
import NaturalDeduction.Proofs.SettingsStages

/-!
# Whether loaded settings can be used

Loading refuses a cap on suggestions that is negative, and no other. Handing out suggestions refuses
a cap that is negative, and one beyond `Verifier.maxCap` too. So settings may load, and then be
refused as soon as there is something to suggest. Up to that bound whatever loads can be used, and
no more suggestions are handed out than the cap allows.
-/

namespace NaturalDeduction

namespace Settings

variable {document : Value} {settings : Settings}

/-- A cap that is read is not negative. -/
theorem nonneg_of_readCap {given : Option Value} {cap : Int} (read : readCap given = .ok cap) :
    0 ≤ cap := by
  unfold readCap at read
  split at read
  next => cases read; decide
  next => cases read; decide
  next =>
    obtain ⟨n, -, read⟩ := bind_eq_ok.mp read
    split at read
    next => cases read
    next kept =>
      cases read
      exact Int.not_lt.mp kept

/-- Settings that load have a cap that is not negative. -/
theorem nonneg_of_ofValue (loaded : ofValue document = .ok settings) :
    0 ≤ settings.maxSuggestions := by
  rw [ofValue_eq_bind] at loaded
  obtain ⟨s, -, loaded⟩ := bind_eq_ok.mp loaded
  exact nonneg_of_readCap (ofSections_ok loaded).1

/-- The document that says nothing but what the cap is. -/
def capDocument (cap : Int) : Value :=
  .mapping [(.text "autofill", .mapping [(.text "max_suggestions", .int cap)])]

/-- A document that says what the cap is, and nothing else, loads with that cap. -/
theorem ofValue_capDocument {cap : Int} (nonneg : 0 ≤ cap) :
    ofValue (capDocument cap) = .ok { maxSuggestions := cap } := by
  have read : readCap (some (.int cap)) = .ok cap := if_neg (Int.not_lt.mpr nonneg)
  show (readCap (some (.int cap)) >>= fun n =>
    (.ok { maxSuggestions := n } : Except SettingsError Settings)) = _
  rw [read, ok_bind]

/-- The caps that load are those that are not negative, however large. -/
theorem exists_ofValue_iff {cap : Int} :
    (∃ document settings, ofValue document = .ok settings ∧ settings.maxSuggestions = cap) ↔
      0 ≤ cap := by
  constructor
  · intro h
    obtain ⟨document, settings, loaded, rfl⟩ := h
    exact nonneg_of_ofValue loaded
  · intro nonneg
    exact ⟨capDocument cap, _, ofValue_capDocument nonneg, rfl⟩

end Settings

namespace Verifier

variable {v : Verifier} {r : RuleRef} {id : RuleId} {ps : List Premise}

/-- Where the premises fit the rule, suggestions are given or refused by the cap alone. -/
theorem suggest_of_propose {φs : List Formula} (found : r.resolve? = some id)
    (proposed : id.rule.propose ps = .ok (some φs)) :
    (v.suggest r ps).outcome =
      if 0 ≤ v.settings.maxSuggestions ∧ v.settings.maxSuggestions ≤ maxCap then
        .ok (some { pending := φs, left := v.settings.maxSuggestions.toNat })
      else .error .capOutOfRange := by
  simp only [suggest, withRule, found, proposed]
  split <;> rfl

/-- Where a rule has nothing to propose there is an answer, whatever the cap. -/
theorem suggest_of_propose_none (found : r.resolve? = some id)
    (silent : id.rule.propose ps = .ok none) : (v.suggest r ps).outcome = .ok none := by
  simp only [suggest, withRule, found, silent]

/-- No more suggestions are handed out than the cap allows. -/
theorem length_take_le_cap {given : Suggestions}
    (h : (v.suggest r ps).outcome = .ok (some given)) (n : Nat) :
    ((given.take n).1.length : Int) ≤ v.settings.maxSuggestions := by
  obtain ⟨id, φs, cap, whole, -, -, taken⟩ := exists_texts_of_suggest h
  rw [taken, whole, List.take_take]
  exact Int.ofNat_le.mpr (Nat.le_trans (List.length_take_le _ _) (Nat.min_le_right n cap))

/-- Settings that load have a cap that is not negative. Under them a rule of the catalogue has an
answer for well-formed premises exactly when the cap is at most `maxCap`, or there is nothing to
suggest; otherwise the cap is refused as out of range. The suggestions are never more than the
cap. -/
theorem suggest_of_loaded {document : Value} {settings : Settings}
    (loaded : Settings.ofValue document = .ok settings) (found : r.resolve? = some id)
    (wf : ∀ p ∈ ps, p.WellFormed) :
    0 ≤ settings.maxSuggestions ∧
    ((∃ given, (suggest { settings } r ps).outcome = .ok given) ↔
      settings.maxSuggestions ≤ maxCap ∨ id.rule.propose ps = .ok none) ∧
    (∀ why, (suggest { settings } r ps).outcome = .error why → why = .capOutOfRange) ∧
    ∀ given, (suggest { settings } r ps).outcome = .ok (some given) →
      ∀ n, ((given.take n).1.length : Int) ≤ settings.maxSuggestions := by
  have nonneg := Settings.nonneg_of_ofValue loaded
  refine ⟨nonneg, ?_⟩
  rw [← and_assoc]
  refine ⟨?_, fun given h n => length_take_le_cap h n⟩
  obtain ⟨proposal, proposed, -⟩ := id.advises wf
  cases proposal with
  | none =>
    rw [suggest_of_propose_none found proposed]
    exact ⟨iff_of_true ⟨none, rfl⟩ (.inr proposed), nofun⟩
  | some φs =>
    rw [suggest_of_propose found proposed, proposed]
    by_cases small : settings.maxSuggestions ≤ maxCap
    · rw [if_pos ⟨nonneg, small⟩]
      exact ⟨iff_of_true ⟨_, rfl⟩ (.inl small), nofun⟩
    · rw [if_neg fun inRange => small inRange.2]
      refine ⟨iff_of_false nofun ?_, fun why same => (Except.error.inj same).symm⟩
      intro h
      rcases h with small' | silent
      · exact small small'
      · cases silent

/-- Under settings loaded with a cap of 2, no more than two of the three conjuncts are suggested. -/
theorem suggest_of_loaded_small_cap :
    ∃ given, (suggest { settings := { maxSuggestions := 2 } } (.known .simplification)
        [.plain (.conj [.atom "P", .atom "Q", .atom "R"])]).outcome = .ok (some given) ∧
      ∀ n, ((given.take n).1.length : Int) ≤ 2 := by
  have loaded : Settings.ofValue (Settings.capDocument 2) = .ok { maxSuggestions := 2 } :=
    Settings.ofValue_capDocument (by decide)
  have wf : ∀ p ∈ [Premise.plain (.conj [.atom "P", .atom "Q", .atom "R"])], p.WellFormed := by
    decide
  obtain ⟨-, -, -, few⟩ := suggest_of_loaded (r := .known .simplification) loaded rfl wf
  exact ⟨_, rfl, few _ rfl⟩

/-- A cap of 2⁶³ loads, and then reiteration does not suggest `P` for `P`: not all settings that
load can be used. -/
theorem refuses_loaded_cap :
    ¬∀ (document : Value) (settings : Settings) (id : RuleId) (ps : List Premise),
      Settings.ofValue document = .ok settings → (∀ p ∈ ps, p.WellFormed) →
        ∃ given, (suggest { settings } (.known id) ps).outcome = .ok given ∧
          ∀ s, given = some s → ∀ n, ((s.take n).1.length : Int) ≤ settings.maxSuggestions := by
  intro usable
  have loaded : Settings.ofValue (Settings.capDocument 9223372036854775808) =
      .ok { maxSuggestions := 9223372036854775808 } := Settings.ofValue_capDocument (by decide)
  obtain ⟨given, answered, -⟩ := usable _ _ .reiteration [.plain (.atom "P")] loaded (by decide)
  have refused : (suggest { settings := { maxSuggestions := 9223372036854775808 } }
      (.known .reiteration) [.plain (.atom "P")]).outcome = .error .capOutOfRange := rfl
  cases answered.symm.trans refused

end Verifier

end NaturalDeduction
