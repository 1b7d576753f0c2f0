import NaturalDeduction.Proofs.SettingsStages

/-!
# Documents and sections of the wrong kind

A document, or a section of it, that is neither vacant nor a mapping is refused, and nothing else is
refused for its kind (`Settings.refuses_ill_typed_iff`). A vacant one falls back to the defaults,
and null is not the only vacant value: zero, false, and whatever is empty are vacant too.
-/

namespace NaturalDeduction.Settings

variable {v : Value} {e : SettingsError} {s : Sections}

/-- What the entries of the sections say is never reported as a section of the wrong kind. -/
theorem isIllTyped_of_ofSections (h : ofSections s = .error e) : e.isIllTyped = false := by
  obtain cap | ⟨-, flag | ⟨-, names | ⟨_, -, rules⟩⟩⟩ := ofSections_eq_error_iff.mp h
  · exact (readCap_error cap).1
  · obtain ⟨w, rfl⟩ | rfl := readFlag_error flag <;> rfl
  · obtain ⟨kind, rfl⟩ := hiddenNames_error names
    rfl
  · obtain ⟨name, -, rfl⟩ := resolveAll_eq_error_iff.mp rules
    rfl

/-- A document is refused for its kind, or for that of a section, exactly when one of them is
neither vacant nor a mapping. -/
theorem exists_isIllTyped_iff :
    (∃ why, ofValue v = .error why ∧ why.isIllTyped = true) ↔
      v.IllTyped ∨ ∃ entries, v = .mapping entries ∧
        ∃ name ∈ sectionNames, (sectionValue name entries).IllTyped := by
  rw [← exists_sections_error_iff]
  refine exists_congr fun why => ?_
  rw [ofValue_eq_bind, bind_eq_error]
  constructor
  · intro h
    obtain ⟨failed | ⟨s, -, failed⟩, illTyped⟩ := h
    · exact failed
    · exact absurd (illTyped.symm.trans (isIllTyped_of_ofSections failed)) nofun
  · intro failed
    exact ⟨.inl failed, isIllTyped_of_sections failed⟩

/-! ## Defaults -/

/-- A vacant document describes the default settings. -/
theorem ofValue_of_vacant (vacant : v.isVacant = true) : ofValue v = .ok {} := by
  rw [ofValue_eq_bind, sections_of_vacant vacant]
  rfl

/-- What a section might have said has its default where the section is vacant. -/
theorem defaults_of_vacant {entries : List (Value × Value)} {settings : Settings}
    (loaded : ofValue (.mapping entries) = .ok settings) :
    ((sectionValue "autofill" entries).isVacant = true → settings.maxSuggestions = 32) ∧
      ((sectionValue "logging" entries).isVacant = true → settings.logRejections = true) ∧
      ((sectionValue "catalogue" entries).isVacant = true → settings.hiddenRules = []) := by
  rw [ofValue_eq_bind, sections_mapping] at loaded
  obtain ⟨s, found, loaded⟩ := bind_eq_ok.mp loaded
  obtain ⟨autofill, logging, catalogue⟩ := sectionsOf_eq_ok_iff.mp found
  obtain ⟨cap, flag, names, hidden, rules⟩ := ofSections_ok loaded
  refine ⟨fun vacant => ?_, fun vacant => ?_, fun vacant => ?_⟩
  · have none : s.autofill = [] :=
      Option.some.inj (autofill.symm.trans (Value.entries?_of_vacant vacant))
    rw [none] at cap
    exact (Except.ok.inj cap).symm
  · have none : s.logging = [] :=
      Option.some.inj (logging.symm.trans (Value.entries?_of_vacant vacant))
    rw [none] at flag
    exact (Except.ok.inj flag).symm
  · have none : s.catalogue = [] :=
      Option.some.inj (catalogue.symm.trans (Value.entries?_of_vacant vacant))
    rw [none] at hidden
    obtain rfl : [] = names := Except.ok.inj hidden
    exact (Except.ok.inj rules).symm

/-- A document is refused as ill-typed, with a fault of class `value`, exactly when it or one of its
sections is neither vacant nor a mapping, whatever else is wrong with it. A vacant document means
the defaults, and a vacant section the defaults of what it might have said. Whatever reader there
is, a file is refused for what its document is refused for. -/
theorem refuses_ill_typed_iff (v : Value) :
    ((∃ why, ofValue v = .error why ∧ why.isIllTyped = true ∧ why.faultClass = .value) ↔
      v.IllTyped ∨ ∃ entries, v = .mapping entries ∧
        ∃ name ∈ sectionNames, (sectionValue name entries).IllTyped) ∧
    (v.isVacant = true → ofValue v = .ok {}) ∧
    (∀ entries settings, v = .mapping entries → ofValue v = .ok settings →
      ((sectionValue "autofill" entries).isVacant = true → settings.maxSuggestions = 32) ∧
      ((sectionValue "logging" entries).isVacant = true → settings.logRejections = true) ∧
      ((sectionValue "catalogue" entries).isVacant = true → settings.hiddenRules = [])) ∧
    ∀ (reader : Reader) (file : SettingsFile), file.document reader = .ok v →
      load reader file = (ofValue v).mapError .unusable := by
  refine ⟨?refused, ofValue_of_vacant, ?defaults, ?files⟩
  case refused =>
    rw [← exists_isIllTyped_iff]
    refine exists_congr fun why => and_congr_right fun _ => ?_
    exact and_iff_left_of_imp SettingsError.faultClass_of_isIllTyped
  case defaults =>
    intro entries settings same loaded
    rw [same] at loaded
    exact defaults_of_vacant loaded
  case files =>
    intro reader file read
    rw [load, read, ok_bind]

/-- Zero in the place of `autofill` leaves the cap at its default, and does not keep the text in the
place of `logging` from being refused. False in the place of the document means the defaults. -/
theorem refuses_text_beside_zero :
    (∃ why, ofValue (.mapping [(.text "autofill", .int 0), (.text "logging", .text "loud")]) =
        .error why ∧ why.isIllTyped = true ∧ why.faultClass = .value) ∧
      ofValue (.bool false) = .ok {} ∧
      ∀ settings, ofValue (.mapping [(.text "autofill", .int 0),
        (.text "catalogue", .mapping [(.text "hidden_rules", .text "")])]) = .ok settings →
          settings.maxSuggestions = 32 := by
  refine ⟨?_, ?_, ?_⟩
  · apply (refuses_ill_typed_iff _).1.mpr
    exact .inr ⟨_, rfl, "logging", by decide, by decide⟩
  · exact (refuses_ill_typed_iff _).2.1 rfl
  · intro settings loaded
    exact ((refuses_ill_typed_iff _).2.2.1 _ settings rfl loaded).1 rfl

/-- Zero is no mapping and is not null. It is not refused as a document, nor as the section
`autofill` of one. -/
theorem takes_zero_for_missing :
    (¬∀ v : Value, v ≠ .null → v.kind ≠ .mapping → ∃ why, ofValue v = .error why) ∧
      ¬∀ (entries : List (Value × Value)) (w : Value), Value.get? "autofill" entries = some w →
        w ≠ .null → w.kind ≠ .mapping → ∃ why, ofValue (.mapping entries) = .error why := by
  constructor
  · intro refuses
    obtain ⟨why, refused⟩ := refuses (.int 0) nofun nofun
    cases refused.symm.trans (ofValue_of_vacant rfl)
  · intro refuses
    obtain ⟨why, refused⟩ := refuses [(.text "autofill", .int 0)] (.int 0) rfl nofun nofun
    have loaded : ofValue (.mapping [(.text "autofill", .int 0)]) = .ok {} := rfl
    cases refused.symm.trans loaded

end NaturalDeduction.Settings
