import NaturalDeduction.Document.Standard
import NaturalDeduction.Proofs.Session
import NaturalDeduction.Proofs.SettingsStages

/-!
# Which settings files are forgiven

A settings file that is missing means the defaults, and so does one that is at fault, with a
warning, as long as the class of its fault is among `LoadError.forgivenClasses`. A document that has
been read may be at fault in two classes that are not: its cap is infinite, or a hidden rule is
unknown. `Settings.falls_back_or_fails` says for every reader and every file what comes of it, and
which document it takes for loading to fail.

In what classes a text is refused is up to the reader. One that keeps to forgiven classes leaves the
two faults above as the only reasons for loading to fail.
-/

namespace NaturalDeduction

/-- Forgiveness goes by the class of a fault. -/
theorem LoadError.isForgiven_iff (why : LoadError) :
    why.isForgiven = true ↔ why.faultClass ∈ forgivenClasses := decide_eq_true_iff

/-- A file without a document is at fault in a forgiven class, unless it is the reader that refuses
its text. -/
theorem SettingsFile.document_error {reader : Reader} {file : SettingsFile} {why : LoadError}
    (h : file.document reader = .error why) :
    why.isForgiven = true ∧ (∀ fault, why ≠ .unreadable fault) ∨
      ∃ text fault, reader.read text = .error fault ∧ why = .unreadable fault := by
  cases file with
  | absent =>
    cases h
    exact .inl ⟨rfl, nofun⟩
  | directory =>
    cases h
    exact .inl ⟨rfl, nofun⟩
  | bytes content =>
    obtain undecodable | ⟨text, -, unreadable⟩ := bind_eq_error.mp h
    · obtain ⟨e, -, rfl⟩ := mapError_eq_error.mp undecodable
      exact .inl ⟨rfl, nofun⟩
    · obtain ⟨fault, refused, rfl⟩ := mapError_eq_error.mp unreadable
      exact .inr ⟨_, fault, refused, rfl⟩

/-- The reader refuses texts in forgiven classes only. -/
def Reader.KeepsToForgiven (reader : Reader) : Prop :=
  ∀ text fault, reader.read text = .error fault → fault.faultClass ∈ LoadError.forgivenClasses

namespace Settings

variable {reader : Reader} {v : Value} {e : SettingsError} {s : Sections} {file : SettingsFile}
  {why : LoadError}

/-! ## The faults of sections that are not forgiven -/

/-- The cap is infinite. -/
def Sections.CapsAtInfinity (s : Sections) : Prop :=
  ∃ negative, Value.get? "max_suggestions" s.autofill = some (.float (.infinite negative))

/-- The cap and the flag can be read, and of the hidden rules this name is the first that no rule
has. -/
def Sections.HidesUnknown (s : Sections) (name : Value) : Prop :=
  (∃ cap, readCap (Value.get? "max_suggestions" s.autofill) = .ok cap) ∧
    (∃ flag, readFlag (Value.get? "log_rejections" s.logging) = .ok flag) ∧
    ∃ names, hiddenNames (Value.get? "hidden_rules" s.catalogue) = .ok names ∧
      firstUnknown? names = some name

/-- Of what is wrong with settings, two faults are not forgiven. -/
theorem isForgiven_eq_false_iff :
    (LoadError.unusable e).isForgiven = false ↔
      e = .capInfinite ∨ ∃ name, e = .unknownRule name := by
  rw [← Bool.not_eq_true, LoadError.isForgiven_iff]
  cases e <;> simp [LoadError.faultClass, SettingsError.faultClass, LoadError.forgivenClasses]

/-- The faults of the flag and of the place for hidden rules are forgiven, so what is not comes from
the cap or from the names of hidden rules. -/
theorem ofSections_eq_error_iff_of_serious (serious : (LoadError.unusable e).isForgiven = false) :
    ofSections s = .error e ↔
      readCap (Value.get? "max_suggestions" s.autofill) = .error e ∨
        (∃ cap, readCap (Value.get? "max_suggestions" s.autofill) = .ok cap) ∧
          (∃ flag, readFlag (Value.get? "log_rejections" s.logging) = .ok flag) ∧
          ∃ names, hiddenNames (Value.get? "hidden_rules" s.catalogue) = .ok names ∧
            resolveAll names = .error e := by
  have flag : readFlag (Value.get? "log_rejections" s.logging) ≠ .error e := by
    intro failed
    obtain ⟨w, rfl⟩ | rfl := readFlag_error failed <;> cases serious
  have hidden : hiddenNames (Value.get? "hidden_rules" s.catalogue) ≠ .error e := by
    intro failed
    obtain ⟨kind, rfl⟩ := hiddenNames_error failed
    cases serious
  rw [ofSections_eq_error_iff, or_iff_right flag, or_iff_right hidden]

/-- An infinite cap is the first thing that is looked at, so nothing keeps it from being
reported. -/
theorem ofSections_eq_capInfinite_iff : ofSections s = .error .capInfinite ↔ s.CapsAtInfinity := by
  rw [ofSections_eq_error_iff_of_serious rfl]
  constructor
  · intro h
    obtain cap | ⟨-, -, _, -, rules⟩ := h
    · exact (readCap_error cap).2.2 rfl
    · obtain ⟨name, -, same⟩ := resolveAll_eq_error_iff.mp rules
      cases same
  · intro h
    obtain ⟨negative, found⟩ := h
    rw [found]
    exact .inl rfl

/-- An unknown hidden rule is reported where nothing before it is at fault. -/
theorem ofSections_eq_unknownRule_iff {name : Value} :
    ofSections s = .error (.unknownRule name) ↔ s.HidesUnknown name := by
  rw [ofSections_eq_error_iff_of_serious rfl,
    or_iff_right fun cap => (readCap_error cap).2.1 name rfl]
  refine and_congr_right fun _ => and_congr_right fun _ => exists_congr fun names => ?_
  refine and_congr_right fun _ => ?_
  rw [resolveAll_eq_error_iff]
  constructor
  · intro h
    obtain ⟨first, unknown, same⟩ := h
    cases same
    exact unknown
  · intro unknown
    exact ⟨name, unknown, rfl⟩

/-- A value of the wrong kind is forgiven, so what is not forgiven comes from the sections. -/
theorem ofValue_eq_error_iff (serious : (LoadError.unusable e).isForgiven = false) :
    ofValue v = .error e ↔ ∃ s, sections v = .ok s ∧ ofSections s = .error e := by
  rw [ofValue_eq_bind, bind_eq_error]
  refine or_iff_right fun h => ?_
  have illTyped := isIllTyped_of_sections h
  obtain rfl | ⟨name, rfl⟩ := isForgiven_eq_false_iff.mp serious
  · cases illTyped
  · cases illTyped

/-- What of a value is not forgiven: an infinite cap, or a hidden rule that is unknown. -/
theorem ofValue_serious_iff :
    (ofValue v = .error e ∧ (LoadError.unusable e).isForgiven = false) ↔
      ∃ s, sections v = .ok s ∧
        (e = .capInfinite ∧ s.CapsAtInfinity ∨
          ∃ name, e = .unknownRule name ∧ s.HidesUnknown name) := by
  constructor
  · intro h
    obtain ⟨failed, serious⟩ := h
    obtain ⟨s, found, failed⟩ := (ofValue_eq_error_iff serious).mp failed
    refine ⟨s, found, ?_⟩
    obtain rfl | ⟨name, rfl⟩ := isForgiven_eq_false_iff.mp serious
    · exact .inl ⟨rfl, ofSections_eq_capInfinite_iff.mp failed⟩
    · exact .inr ⟨name, rfl, ofSections_eq_unknownRule_iff.mp failed⟩
  · intro h
    obtain ⟨s, found, ⟨rfl, infinite⟩ | ⟨name, rfl, hides⟩⟩ := h
    · have failed := ofSections_eq_capInfinite_iff.mpr infinite
      exact ⟨(ofValue_eq_error_iff rfl).mpr ⟨s, found, failed⟩, rfl⟩
    · have failed := ofSections_eq_unknownRule_iff.mpr hides
      exact ⟨(ofValue_eq_error_iff rfl).mpr ⟨s, found, failed⟩, rfl⟩

/-! ## Files -/

/-- Loading fails with the fault of the document, or else with that of the settings. -/
theorem load_eq_error_iff :
    load reader file = .error why ↔
      file.document reader = .error why ∨
        ∃ v e, file.document reader = .ok v ∧ ofValue v = .error e ∧ why = .unusable e := by
  rw [load, bind_eq_error]
  refine or_congr_right (exists_congr fun v => ?_)
  rw [exists_and_left]
  refine and_congr_right fun _ => ?_
  rw [mapError_eq_error]
  exact exists_congr fun e => and_congr_right fun _ => eq_comm

theorem loadOrDefault_of_ok {settings : Settings} (loaded : load reader file = .ok settings) :
    loadOrDefault reader file = .settings settings := by
  cases file with
  | absent => cases loaded
  | directory => cases loaded
  | bytes content => simp only [loadOrDefault, loaded]

/-- A file that is there and does not load is ignored or fails, depending on its fault. -/
theorem loadOrDefault_of_error (present : file ≠ .absent) (failed : load reader file = .error why) :
    loadOrDefault reader file = if why.isForgiven then .ignored why else .failed why := by
  cases file with
  | absent => exact absurd rfl present
  | directory =>
    cases failed
    rfl
  | bytes content => simp only [loadOrDefault, failed]

theorem loadOrDefault_of_forgiven (present : file ≠ .absent)
    (failed : load reader file = .error why)
    (forgiven : why.isForgiven = true) : loadOrDefault reader file = .ignored why := by
  rw [loadOrDefault_of_error present failed, if_pos forgiven]

theorem loadOrDefault_of_serious (failed : load reader file = .error why)
    (serious : why.isForgiven = false) : loadOrDefault reader file = .failed why := by
  have present : file ≠ .absent := by
    rintro rfl
    cases failed
    cases serious
  rw [loadOrDefault_of_error present failed, serious]
  rfl

/-- What may come of a file: it is missing, or it loads, or its fault is forgiven, or it is not. -/
theorem loadOrDefault_cases (reader : Reader) (file : SettingsFile) :
    file = .absent ∧ loadOrDefault reader file = .missing ∨
    (∃ settings, load reader file = .ok settings ∧ loadOrDefault reader file = .settings settings) ∨
    (∃ why, (file ≠ .absent ∧ load reader file = .error why ∧ why.isForgiven = true) ∧
      loadOrDefault reader file = .ignored why) ∨
    ∃ why, (load reader file = .error why ∧ why.isForgiven = false) ∧
      loadOrDefault reader file = .failed why := by
  by_cases present : file = .absent
  · subst present
    exact .inl ⟨rfl, rfl⟩
  cases loaded : load reader file with
  | ok settings => exact .inr (.inl ⟨settings, rfl, loadOrDefault_of_ok loaded⟩)
  | error why =>
    cases forgiven : why.isForgiven with
    | true =>
      have came := loadOrDefault_of_forgiven present loaded forgiven
      exact .inr (.inr (.inl ⟨why, ⟨present, rfl, forgiven⟩, came⟩))
    | false =>
      have came := loadOrDefault_of_serious loaded forgiven
      exact .inr (.inr (.inr ⟨why, ⟨rfl, forgiven⟩, came⟩))

/-- Nothing but an absent file counts as missing. -/
theorem loadOrDefault_eq_missing_iff : loadOrDefault reader file = .missing ↔ file = .absent := by
  refine ⟨fun h => ?_, fun absent => absent ▸ rfl⟩
  obtain ⟨absent, -⟩ | ⟨_, -, was⟩ | ⟨_, -, was⟩ | ⟨_, -, was⟩ := loadOrDefault_cases reader file
  · exact absent
  all_goals cases h.symm.trans was

/-- Settings come of a file that loads, and of no other. -/
theorem loadOrDefault_eq_settings_iff {settings : Settings} :
    loadOrDefault reader file = .settings settings ↔ load reader file = .ok settings := by
  refine ⟨fun h => ?_, loadOrDefault_of_ok⟩
  obtain ⟨-, was⟩ | ⟨_, loaded, was⟩ | ⟨_, -, was⟩ | ⟨_, -, was⟩ := loadOrDefault_cases reader file
  case inr.inl =>
    cases h.symm.trans was
    exact loaded
  all_goals cases h.symm.trans was

/-- A file is ignored when it is there and its fault is forgiven. -/
theorem loadOrDefault_eq_ignored_iff :
    loadOrDefault reader file = .ignored why ↔
      file ≠ .absent ∧ load reader file = .error why ∧ why.isForgiven = true := by
  refine ⟨fun h => ?_, fun h => loadOrDefault_of_forgiven h.1 h.2.1 h.2.2⟩
  obtain ⟨-, was⟩ | ⟨_, -, was⟩ | ⟨_, forgiven, was⟩ | ⟨_, -, was⟩ :=
    loadOrDefault_cases reader file
  case inr.inr.inl =>
    cases h.symm.trans was
    exact forgiven
  all_goals cases h.symm.trans was

/-- Loading fails with the faults that are not forgiven. -/
theorem loadOrDefault_eq_failed_iff :
    loadOrDefault reader file = .failed why ↔
      load reader file = .error why ∧ why.isForgiven = false := by
  refine ⟨fun h => ?_, fun h => loadOrDefault_of_serious h.1 h.2⟩
  obtain ⟨-, was⟩ | ⟨_, -, was⟩ | ⟨_, -, was⟩ | ⟨_, serious, was⟩ := loadOrDefault_cases reader file
  case inr.inr.inr =>
    cases h.symm.trans was
    exact serious
  all_goals cases h.symm.trans was

/-- Loading fails for a text that the reader refuses in a class that is not forgiven, for an
infinite cap, and for a hidden rule that is unknown. -/
theorem loadOrDefault_eq_failed_iff_document :
    loadOrDefault reader file = .failed why ↔
      (∃ fault, file.document reader = .error (.unreadable fault) ∧ why = .unreadable fault ∧
        fault.faultClass ∉ LoadError.forgivenClasses) ∨
      ∃ v s, file.document reader = .ok v ∧ sections v = .ok s ∧
        (why = .unusable .capInfinite ∧ s.CapsAtInfinity ∨
          ∃ name, why = .unusable (.unknownRule name) ∧ s.HidesUnknown name) := by
  rw [loadOrDefault_eq_failed_iff, load_eq_error_iff]
  constructor
  · intro h
    obtain ⟨unread | ⟨v, e, read, failed, rfl⟩, serious⟩ := h
    · obtain ⟨forgiven, -⟩ | ⟨text, fault, -, rfl⟩ := SettingsFile.document_error unread
      · exact absurd (forgiven.symm.trans serious) nofun
      · exact .inl ⟨fault, unread, rfl, of_decide_eq_false serious⟩
    · obtain ⟨s, found, ⟨rfl, infinite⟩ | ⟨name, rfl, hides⟩⟩ :=
        ofValue_serious_iff.mp ⟨failed, serious⟩
      · exact .inr ⟨v, s, read, found, .inl ⟨rfl, infinite⟩⟩
      · exact .inr ⟨v, s, read, found, .inr ⟨name, rfl, hides⟩⟩
  · intro h
    obtain ⟨fault, unread, rfl, serious⟩ |
      ⟨v, s, read, found, ⟨rfl, infinite⟩ | ⟨name, rfl, hides⟩⟩ := h
    · exact ⟨.inl unread, decide_eq_false serious⟩
    · obtain ⟨failed, serious⟩ := ofValue_serious_iff.mpr ⟨s, found, .inl ⟨rfl, infinite⟩⟩
      exact ⟨.inr ⟨v, _, read, failed, rfl⟩, serious⟩
    · obtain ⟨failed, serious⟩ := ofValue_serious_iff.mpr ⟨s, found, .inr ⟨name, rfl, hides⟩⟩
      exact ⟨.inr ⟨v, _, read, failed, rfl⟩, serious⟩

/-- Whatever the reader: a file that is absent means no settings, a file that loads the settings it
holds, and a file with a fault of a forgiven class no settings and a warning. Loading fails in no
other case than these: the reader refuses the text in a class that is not forgiven, the cap is
infinite, or, with nothing at fault before them, the hidden rules hold one that is unknown. -/
theorem falls_back_or_fails (reader : Reader) (file : SettingsFile) :
    (loadOrDefault reader file = .missing ↔ file = .absent) ∧
    (∀ settings, loadOrDefault reader file = .settings settings ↔
      load reader file = .ok settings) ∧
    (∀ why, loadOrDefault reader file = .ignored why ↔
      file ≠ .absent ∧ load reader file = .error why ∧
        why.faultClass ∈ LoadError.forgivenClasses) ∧
    (∀ why, loadOrDefault reader file = .ignored why →
      Session.makeVerifier reader file = { outcome := .ok {}, log := [.settingsIgnored why] } ∧
        (LogEntry.settingsIgnored why).level = .warning) ∧
    ∀ why, loadOrDefault reader file = .failed why ↔
      (∃ fault, file.document reader = .error (.unreadable fault) ∧ why = .unreadable fault ∧
        fault.faultClass ∉ LoadError.forgivenClasses) ∨
      ∃ v s, file.document reader = .ok v ∧ sections v = .ok s ∧
        (why = .unusable .capInfinite ∧ s.CapsAtInfinity ∨
          ∃ name, why = .unusable (.unknownRule name) ∧ s.HidesUnknown name) := by
  refine ⟨loadOrDefault_eq_missing_iff, fun _ => loadOrDefault_eq_settings_iff, ?ignored, ?warned,
    fun _ => loadOrDefault_eq_failed_iff_document⟩
  case ignored =>
    intro why
    rw [← LoadError.isForgiven_iff]
    exact loadOrDefault_eq_ignored_iff
  case warned =>
    intro why ignored
    refine ⟨?_, rfl⟩
    rw [Session.makeVerifier, ignored]

/-- With a reader that keeps to forgiven classes, loading fails for an infinite cap and for an
unknown hidden rule, and for nothing else. -/
theorem loadOrDefault_eq_failed_iff_of_keepsToForgiven (keeps : reader.KeepsToForgiven) :
    loadOrDefault reader file = .failed why ↔
      ∃ v s, file.document reader = .ok v ∧ sections v = .ok s ∧
        (why = .unusable .capInfinite ∧ s.CapsAtInfinity ∨
          ∃ name, why = .unusable (.unknownRule name) ∧ s.HidesUnknown name) := by
  rw [loadOrDefault_eq_failed_iff_document]
  refine or_iff_right fun h => ?_
  obtain ⟨fault, unread, rfl, serious⟩ := h
  obtain ⟨-, other⟩ | ⟨text, found, refused, same⟩ := SettingsFile.document_error unread
  · exact other fault rfl
  · cases same
    exact serious (keeps text fault refused)

/-- A directory is ignored, and so is a file that holds a stray byte. A verifier made in the
presence of either has the default settings and warns. -/
theorem falls_back_for_directory :
    Session.makeVerifier Document.standard .directory =
        { outcome := .ok {}, log := [.settingsIgnored .isDirectory] } ∧
      Session.makeVerifier Document.standard (.bytes [0xff]) =
        { outcome := .ok {},
          log := [.settingsIgnored (.undecodable ⟨.invalidStart, 0xff, 0, 1⟩)] } := by
  constructor
  · obtain ⟨-, -, ignored, warned, -⟩ := falls_back_or_fails Document.standard .directory
    have directory := (ignored .isDirectory).mpr ⟨nofun, rfl, by decide⟩
    exact (warned _ directory).1
  · obtain ⟨-, -, ignored, warned, -⟩ := falls_back_or_fails Document.standard (.bytes [0xff])
    have stray := (ignored (.undecodable ⟨.invalidStart, 0xff, 0, 1⟩)).mpr ⟨nofun, rfl, by decide⟩
    exact (warned _ stray).1

/-- A document whose cap is infinite hides no rule at all, and yet loading fails for it. -/
theorem fails_at_infinite_cap :
    ¬∀ file why, loadOrDefault Document.standard file = .failed why →
      ∃ name, why = .unusable (.unknownRule name) := by
  intro unknown
  let infinite := "autofill:\n  max_suggestions: .inf\n".toUTF8.data.toList
  have failed : (match loadOrDefault Document.standard (.bytes infinite) with
      | .failed (.unusable .capInfinite) => true
      | _ => false) = true := by decide +kernel
  split at failed
  next fails =>
    obtain ⟨name, same⟩ := unknown _ _ fails
    cases same
  next => cases failed

end Settings

end NaturalDeduction
