import NaturalDeduction.Proofs.Rule.Answer
import NaturalDeduction.Settings.File

/-!
# Loading settings stage by stage

Settings are loaded in stages, and the first stage that fails decides what is reported: the file is
read as a document, the three sections of the document are found, and then the cap, the flag and the
hidden rules are read from the entries of the sections. `Settings.load` is cut into the first stage
and the others as it stands, `Settings.ofValue_eq_bind` cuts the others, and what each stage may
report is said of it alone.

The document and the sections have to be mappings. A vacant value, whatever its kind, is taken for a
mapping without entries; any other value that is no mapping is `Value.IllTyped`.
-/

namespace NaturalDeduction

/-- A sequence of two stages fails where the first does, or else the second. -/
theorem bind_eq_error {ε α β : Type} {x : Except ε α} {f : α → Except ε β} {e : ε} :
    (x >>= f) = .error e ↔ x = .error e ∨ ∃ a, x = .ok a ∧ f a = .error e := by
  cases x with
  | ok a =>
    constructor
    · exact fun h => .inr ⟨a, rfl, h⟩
    · intro h
      obtain h | ⟨_, same, h⟩ := h
      · cases h
      · cases same
        exact h
  | error e' =>
    constructor
    · intro h
      cases h
      exact .inl rfl
    · intro h
      obtain h | ⟨_, same, -⟩ := h
      · cases h
        rfl
      · cases same

/-! ## Values in the place of a mapping -/

namespace Value

/-- A value that is neither vacant nor a mapping. -/
def IllTyped (v : Value) : Prop := v.isVacant = false ∧ v.kind ≠ .mapping

instance (v : Value) : Decidable v.IllTyped := inferInstanceAs (Decidable (_ ∧ _))

/-- The entries of a value in the place of a mapping. -/
def entries? (v : Value) : Option (List (Value × Value)) :=
  if v.isVacant then some []
  else match v with
    | .mapping entries => some entries
    | _ => none

variable {v : Value}

theorem entries?_of_vacant (vacant : v.isVacant = true) : v.entries? = some [] := if_pos vacant

theorem entries?_mapping (entries : List (Value × Value)) :
    (mapping entries).entries? = some entries := by
  cases entries <;> rfl

/-- A value that is neither vacant nor a mapping has no entries to look into. -/
theorem entries?_eq_none_iff : v.entries? = none ↔ v.IllTyped := by
  unfold entries? IllTyped
  cases vacant : v.isVacant with
  | true => simp
  | false => cases v <;> simp [kind]

/-- A value is vacant, a mapping, or in the wrong place. -/
theorem cases_place (v : Value) :
    v.isVacant = true ∨ (∃ entries, v = mapping entries) ∨ v.IllTyped := by
  cases vacant : v.isVacant with
  | true => exact .inl rfl
  | false =>
    refine .inr ?_
    cases v with
    | mapping entries => exact .inl ⟨entries, rfl⟩
    | _ => exact .inr ⟨vacant, nofun⟩

end Value

namespace Settings

variable {v : Value} {e : SettingsError}

/-! ## The sections of a document -/

/-- The names of the sections, in the order in which they are looked at. -/
def sectionNames : List String := ["autofill", "logging", "catalogue"]

/-- The value of a section among the entries of a document, null where it is missing. -/
def sectionValue (name : String) (entries : List (Value × Value)) : Value :=
  (Value.get? name entries).getD .null

/-- What the three sections hold. -/
structure Sections where
  autofill : List (Value × Value)
  logging : List (Value × Value)
  catalogue : List (Value × Value)

/-- The sections of a document that is a mapping with these entries. -/
def sectionsOf (entries : List (Value × Value)) : Except SettingsError Sections := do
  let autofill ← sectionEntries "autofill" entries
  let logging ← sectionEntries "logging" entries
  let catalogue ← sectionEntries "catalogue" entries
  .ok { autofill, logging, catalogue }

/-- The sections of a document. -/
def sections (v : Value) : Except SettingsError Sections :=
  match v.entries? with
  | some entries => sectionsOf entries
  | none => .error (.documentKind v.kind)

/-- The settings that the sections of a document describe. -/
def ofSections (s : Sections) : Except SettingsError Settings := do
  let maxSuggestions ← readCap (Value.get? "max_suggestions" s.autofill)
  let logRejections ← readFlag (Value.get? "log_rejections" s.logging)
  let names ← hiddenNames (Value.get? "hidden_rules" s.catalogue)
  let hiddenRules ← resolveAll names
  .ok { maxSuggestions, logRejections, hiddenRules }

/-- The sections are found first, and then looked into. -/
theorem ofEntries_eq_bind (entries : List (Value × Value)) :
    ofEntries entries = sectionsOf entries >>= ofSections := by
  unfold ofEntries sectionsOf
  cases sectionEntries "autofill" entries with
  | error => rfl
  | ok autofill =>
    cases sectionEntries "logging" entries with
    | error => rfl
    | ok logging => cases sectionEntries "catalogue" entries <;> rfl

/-- The sections are all found before any of them is looked into. -/
theorem ofValue_eq_bind (v : Value) : ofValue v = sections v >>= ofSections := by
  unfold ofValue sections Value.entries?
  cases v.isVacant with
  | true => exact ofEntries_eq_bind []
  | false =>
    cases v with
    | mapping entries => exact ofEntries_eq_bind entries
    | _ => rfl

/-- The entries of a section are those of its value, or it is reported as of the wrong kind. -/
theorem sectionEntries_eq (name : String) (entries : List (Value × Value)) :
    sectionEntries name entries =
      match (sectionValue name entries).entries? with
      | some found => .ok found
      | none => .error (.sectionKind name (sectionValue name entries).kind) := by
  unfold sectionEntries sectionValue
  cases Value.get? name entries with
  | none => rfl
  | some w =>
    simp only [Option.getD_some, Value.entries?]
    cases w.isVacant with
    | true => rfl
    | false => cases w <;> rfl

theorem sectionEntries_eq_ok_iff {name : String} {entries found : List (Value × Value)} :
    sectionEntries name entries = .ok found ↔
      (sectionValue name entries).entries? = some found := by
  rw [sectionEntries_eq]
  cases (sectionValue name entries).entries? <;> simp

theorem sectionEntries_eq_error_iff {name : String} {entries : List (Value × Value)} :
    sectionEntries name entries = .error e ↔
      (sectionValue name entries).IllTyped ∧
        e = .sectionKind name (sectionValue name entries).kind := by
  rw [sectionEntries_eq, ← Value.entries?_eq_none_iff]
  cases (sectionValue name entries).entries? with
  | some found => simp
  | none => simp [eq_comm]

/-- The sections are to be had when each of the three has entries. -/
theorem sectionsOf_eq_ok_iff {entries : List (Value × Value)} {s : Sections} :
    sectionsOf entries = .ok s ↔
      (sectionValue "autofill" entries).entries? = some s.autofill ∧
        (sectionValue "logging" entries).entries? = some s.logging ∧
        (sectionValue "catalogue" entries).entries? = some s.catalogue := by
  simp only [← sectionEntries_eq_ok_iff, sectionsOf, bind_eq_ok]
  constructor
  · intro h
    obtain ⟨autofill, first, logging, second, catalogue, third, same⟩ := h
    cases same
    exact ⟨first, second, third⟩
  · intro h
    exact ⟨_, h.1, _, h.2.1, _, h.2.2, rfl⟩

/-- A section of the wrong kind is reported as such, and of several the first one is. -/
theorem sectionsOf_error {entries : List (Value × Value)} (h : sectionsOf entries = .error e) :
    ∃ name ∈ sectionNames, (sectionValue name entries).IllTyped ∧
      e = .sectionKind name (sectionValue name entries).kind := by
  simp only [sectionsOf, bind_eq_error, sectionEntries_eq_error_iff] at h
  obtain first | ⟨_, -, second | ⟨_, -, third | ⟨_, -, nothing⟩⟩⟩ := h
  · exact ⟨_, by decide, first⟩
  · exact ⟨_, by decide, second⟩
  · exact ⟨_, by decide, third⟩
  · cases nothing

/-- The sections are not to be had when one of the three is of the wrong kind. -/
theorem exists_sectionsOf_error_iff {entries : List (Value × Value)} :
    (∃ why, sectionsOf entries = .error why) ↔
      ∃ name ∈ sectionNames, (sectionValue name entries).IllTyped := by
  constructor
  · intro h
    obtain ⟨why, failed⟩ := h
    obtain ⟨name, mem, illTyped, -⟩ := sectionsOf_error failed
    exact ⟨name, mem, illTyped⟩
  · intro h
    obtain ⟨name, mem, illTyped⟩ := h
    cases found : sectionsOf entries with
    | error why => exact ⟨why, rfl⟩
    | ok s =>
      obtain ⟨autofill, logging, catalogue⟩ := sectionsOf_eq_ok_iff.mp found
      rw [← Value.entries?_eq_none_iff] at illTyped
      simp only [sectionNames, List.mem_cons, List.not_mem_nil, or_false] at mem
      obtain rfl | rfl | rfl := mem
      · exact absurd (autofill.symm.trans illTyped) nofun
      · exact absurd (logging.symm.trans illTyped) nofun
      · exact absurd (catalogue.symm.trans illTyped) nofun

theorem sections_of_vacant (vacant : v.isVacant = true) : sections v = .ok ⟨[], [], []⟩ := by
  rw [sections, Value.entries?_of_vacant vacant]
  rfl

theorem sections_mapping (entries : List (Value × Value)) :
    sections (.mapping entries) = sectionsOf entries := by
  rw [sections, Value.entries?_mapping]

/-- A document of the wrong kind is reported as such, before any section of it. -/
theorem sections_of_illTyped (illTyped : v.IllTyped) :
    sections v = .error (.documentKind v.kind) := by
  rw [sections, Value.entries?_eq_none_iff.mpr illTyped]

/-- The sections of a document are not to be had exactly when it, or one of them, is neither vacant
nor a mapping. -/
theorem exists_sections_error_iff :
    (∃ why, sections v = .error why) ↔
      v.IllTyped ∨ ∃ entries, v = .mapping entries ∧
        ∃ name ∈ sectionNames, (sectionValue name entries).IllTyped := by
  obtain vacant | ⟨entries, rfl⟩ | illTyped := Value.cases_place v
  · rw [sections_of_vacant vacant]
    refine iff_of_false nofun ?_
    intro h
    obtain illTyped | ⟨entries, rfl, name, -, illTyped⟩ := h
    · exact absurd (vacant.symm.trans illTyped.1) nofun
    · cases entries with
      | nil => exact absurd illTyped.1 nofun
      | cons entry rest => cases vacant
  · rw [sections_mapping, exists_sectionsOf_error_iff]
    constructor
    · exact fun h => .inr ⟨entries, rfl, h⟩
    · intro h
      obtain illTyped | ⟨_, same, h⟩ := h
      · exact absurd rfl illTyped.2
      · cases same
        exact h
  · rw [sections_of_illTyped illTyped]
    exact iff_of_true ⟨_, rfl⟩ (.inl illTyped)

/-! ## What the entries of the sections say -/

/-- Settings are described by three entries that can all be read. -/
theorem ofSections_ok {s : Sections} {settings : Settings} (h : ofSections s = .ok settings) :
    readCap (Value.get? "max_suggestions" s.autofill) = .ok settings.maxSuggestions ∧
      readFlag (Value.get? "log_rejections" s.logging) = .ok settings.logRejections ∧
      ∃ names, hiddenNames (Value.get? "hidden_rules" s.catalogue) = .ok names ∧
        resolveAll names = .ok settings.hiddenRules := by
  unfold ofSections at h
  obtain ⟨cap, readsCap, h⟩ := bind_eq_ok.mp h
  obtain ⟨flag, readsFlag, h⟩ := bind_eq_ok.mp h
  obtain ⟨names, found, h⟩ := bind_eq_ok.mp h
  obtain ⟨rules, resolved, h⟩ := bind_eq_ok.mp h
  cases h
  exact ⟨readsCap, readsFlag, names, found, resolved⟩

/-- The first of the entries that is at fault is the one reported: the cap, then the flag, then the
hidden rules. -/
theorem ofSections_eq_error_iff {s : Sections} :
    ofSections s = .error e ↔
      readCap (Value.get? "max_suggestions" s.autofill) = .error e ∨
      (∃ cap, readCap (Value.get? "max_suggestions" s.autofill) = .ok cap) ∧
        (readFlag (Value.get? "log_rejections" s.logging) = .error e ∨
        (∃ flag, readFlag (Value.get? "log_rejections" s.logging) = .ok flag) ∧
          (hiddenNames (Value.get? "hidden_rules" s.catalogue) = .error e ∨
          ∃ names, hiddenNames (Value.get? "hidden_rules" s.catalogue) = .ok names ∧
            resolveAll names = .error e)) := by
  simp only [ofSections, bind_eq_error, reduceCtorEq, and_false, exists_false, or_false,
    exists_and_right]

end Settings

/-! ## Faults -/

/-- Whether a fault is that of a document or a section of the wrong kind. -/
def SettingsError.isIllTyped : SettingsError → Bool
  | documentKind _ | sectionKind _ _ => true
  | _ => false

/-- Faults of kind are in the class of values. -/
theorem SettingsError.faultClass_of_isIllTyped {e : SettingsError}
    (illTyped : e.isIllTyped = true) : e.faultClass = .value := by
  cases e with
  | documentKind kind => rfl
  | sectionKind name kind => rfl
  | _ => cases illTyped

/-- A fault that would write out a value is reported as it is, or as the value not being
writable. -/
theorem SettingsError.naming_cases (given : Value) (fault : SettingsError) :
    naming given fault = fault ∨ naming given fault = unwritable := by
  unfold naming
  split
  · exact .inl rfl
  · exact .inr rfl

namespace Settings

variable {v : Value} {e : SettingsError} {s : Sections}

/-- Where the sections are not to be had, the fault is one of kind. -/
theorem isIllTyped_of_sections (h : sections v = .error e) : e.isIllTyped = true := by
  unfold sections at h
  split at h
  · obtain ⟨name, -, -, rfl⟩ := sectionsOf_error h
    rfl
  · cases h
    rfl

/-- A text that writes no integer is refused for that, and not for being infinite. -/
theorem ofText_error {given : Value} {text : String}
    (h : integerOf.ofText given text = .error e) :
    e.isIllTyped = false ∧ (∀ name, e ≠ .unknownRule name) ∧ e ≠ .capInfinite := by
  unfold integerOf.ofText at h
  split at h
  next => cases h
  next =>
    cases h
    exact ⟨rfl, nofun, nofun⟩
  next =>
    cases h
    exact ⟨rfl, nofun, nofun⟩

/-- A value that is no integer is not reported for its place, nor as a rule, and as an infinite cap
only if it is infinite. -/
theorem integerOf_error (h : integerOf v = .error e) :
    e.isIllTyped = false ∧ (∀ name, e ≠ .unknownRule name) ∧
      (e = .capInfinite → ∃ negative, v = .float (.infinite negative)) := by
  unfold integerOf at h
  split at h
  next => cases h
  next => cases h
  next =>
    cases h
    exact ⟨rfl, nofun, nofun⟩
  next negative =>
    cases h
    exact ⟨rfl, nofun, fun _ => ⟨negative, rfl⟩⟩
  next => cases h
  next => exact (ofText_error h).imp_right (.imp_right fun finite same => absurd same finite)
  next => exact (ofText_error h).imp_right (.imp_right fun finite same => absurd same finite)
  next => exact (ofText_error h).imp_right (.imp_right fun finite same => absurd same finite)
  next =>
    cases h
    exact ⟨rfl, nofun, nofun⟩

/-- The same holds of the cap, which may be negative as well. -/
theorem readCap_error {given : Option Value} (h : readCap given = .error e) :
    e.isIllTyped = false ∧ (∀ name, e ≠ .unknownRule name) ∧
      (e = .capInfinite → ∃ negative, given = some (.float (.infinite negative))) := by
  unfold readCap at h
  split at h
  next => cases h
  next => cases h
  next w _ =>
    obtain h | ⟨cap, -, h⟩ := bind_eq_error.mp h
    · obtain ⟨entry, other, infinite⟩ := integerOf_error h
      exact ⟨entry, other, fun same => (infinite same).imp fun _ => congrArg some⟩
    · split at h
      next =>
        rw [← Except.error.inj h]
        obtain same | same := SettingsError.naming_cases (.int cap) (.capNegative cap)
        · rw [same]
          exact ⟨rfl, nofun, nofun⟩
        · rw [same]
          exact ⟨rfl, nofun, nofun⟩
      next => cases h

/-- A flag is refused for not being a truth value, or for not being writable either. -/
theorem readFlag_error {given : Option Value} (h : readFlag given = .error e) :
    (∃ w, e = .flag w) ∨ e = .unwritable := by
  unfold readFlag at h
  split at h
  next => cases h
  next => cases h
  next => cases h
  next w _ _ =>
    rw [← Except.error.inj h]
    exact (SettingsError.naming_cases w (.flag w)).imp_left fun same => ⟨w, same⟩

/-- Hidden rules are refused for being of a kind that nothing can be taken from. -/
theorem hiddenNames_error {given : Option Value} (h : hiddenNames given = .error e) :
    ∃ kind, e = .hiddenKind kind := by
  unfold hiddenNames at h
  split at h
  next => cases h
  next w =>
    split at h
    next => cases h
    next =>
      split at h <;> cases h
      exact ⟨_, rfl⟩

/-- The first name that no rule has. -/
def firstUnknown? (names : List Value) : Option Value :=
  names.find? fun name => (RuleRef.given name).resolve?.isNone

/-- Of several unknown names the first is reported. -/
theorem resolveAll_eq_error_iff {names : List Value} :
    resolveAll names = .error e ↔
      ∃ name, firstUnknown? names = some name ∧ e = .unknownRule name := by
  induction names with
  | nil => exact ⟨nofun, nofun⟩
  | cons first rest ih =>
    rw [resolveAll, List.mapM_cons, ← resolveAll, firstUnknown?, List.find?_cons, ← firstUnknown?]
    cases known : (RuleRef.given first).resolve? with
    | none =>
      simp only [Option.isNone_none]
      constructor
      · intro h
        exact ⟨first, rfl, (Except.error.inj h).symm⟩
      · intro h
        obtain ⟨name, same, rfl⟩ := h
        cases same
        rfl
    | some id =>
      simp only [Option.isNone_some]
      rw [ok_bind, bind_eq_error, ← ih]
      exact or_iff_left nofun

end Settings

theorem mapError_eq_error {ε ε' α : Type} {x : Except ε α} {f : ε → ε'} {e' : ε'} :
    x.mapError f = .error e' ↔ ∃ e, x = .error e ∧ f e = e' := by
  cases x <;> simp [Except.mapError]

end NaturalDeduction
