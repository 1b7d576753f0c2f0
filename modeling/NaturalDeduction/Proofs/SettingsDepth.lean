import NaturalDeduction.Proofs.SettingsStages

/-!
# How deep settings look into a document

Settings are three levels deep: the entries of the document, those of its sections, and the names of
hidden rules. What is inside a collection further down changes neither the settings nor the class of
a fault, though a message may write it out.

So it makes no difference how far a collection that contains itself is unrolled, as long as three
levels of it are there.
-/

namespace NaturalDeduction

namespace Value

mutual

/-- A value down to so many levels of collections. Those further down have nothing in them. -/
def cut : Value → Nat → Value
  | list items, n => .list (cutItems items n)
  | tuple items, n => .tuple (cutItems items n)
  | set items, n => .set (cutItems items n)
  | mapping entries, n => .mapping (cutEntries entries n)
  | v, _ => v

/-- What is kept of the items of a collection. -/
def cutItems : List Value → Nat → List Value
  | [], _ => []
  | _ :: _, 0 => []
  | v :: vs, n + 1 => cut v n :: cutItems vs (n + 1)

/-- What is kept of the entries of a mapping. -/
def cutEntries : List (Value × Value) → Nat → List (Value × Value)
  | [], _ => []
  | _ :: _, 0 => []
  | (k, v) :: rest, n + 1 => (cut k n, cut v n) :: cutEntries rest (n + 1)

end

variable {v : Value} {n : Nat}

theorem cutItems_succ (items : List Value) (n : Nat) :
    cutItems items (n + 1) = items.map (cut · n) := by
  induction items with
  | nil => rfl
  | cons v vs ih => rw [cutItems, ih, List.map_cons]

theorem cutEntries_succ (entries : List (Value × Value)) (n : Nat) :
    cutEntries entries (n + 1) = entries.map (Prod.map (cut · n) (cut · n)) := by
  induction entries with
  | nil => rfl
  | cons entry rest ih => rw [cutEntries, ih, List.map_cons, Prod.map]

/-- What is inside a collection does not make its kind. -/
theorem kind_cut (v : Value) (n : Nat) : (v.cut n).kind = v.kind := by
  cases v <;> simp [cut, kind]

theorem cut_ofCodes (codes : List Nat) (n : Nat) : (ofCodes codes).cut n = ofCodes codes := by
  unfold ofCodes
  split <;> rfl

/-- Cutting leaves a collection without anything in it only where there was nothing in it. -/
theorem isVacant_cut (v : Value) (n : Nat) : (v.cut (n + 1)).isVacant = v.isVacant := by
  cases v <;> simp [cut, isVacant, cutItems_succ, cutEntries_succ]

/-- What stands in the place of a mapping has its entries, cut one level less. -/
theorem entries?_cut (v : Value) (n : Nat) :
    (v.cut (n + 1)).entries? = v.entries?.map (List.map (Prod.map (cut · n) (cut · n))) := by
  unfold entries?
  rw [isVacant_cut]
  cases v.isVacant with
  | true => rfl
  | false => cases v <;> simp [cut, cutEntries_succ]

/-- A text is the same key as what is left of a value exactly when it is the same key as the
value. -/
theorem sameKey_cut_text (k : Value) (n : Nat) (name : String) :
    sameKey (k.cut n) (.text name) = sameKey k (.text name) := by
  cases k <;> rfl

/-- A key finds what is left of the value that it found before. -/
theorem get?_cut (name : String) (entries : List (Value × Value)) (n : Nat) :
    get? name (entries.map (Prod.map (cut · n) (cut · n))) = (get? name entries).map (cut · n) := by
  have found (entry : Value × Value) :
      sameKey (entry.1.cut n) (.text name) = sameKey entry.1 (.text name) :=
    sameKey_cut_text entry.1 n name
  simp only [get?, List.find?_map, Function.comp_def, Prod.map, found, Option.map_map]

end Value

namespace Settings

open Value (cut)

/-- What is left of an answer when of a fault only the class counts. -/
def upToClass {α : Type} (x : Except SettingsError α) : Except FaultClass α :=
  x.mapError SettingsError.faultClass

/-- The class of a fault is that of the first stage that fails. -/
theorem upToClass_bind {α β : Type} (x : Except SettingsError α) (f : α → Except SettingsError β) :
    upToClass (x >>= f) = upToClass x >>= fun a => upToClass (f a) := by
  cases x <;> rfl

/-- No collection is taken for an integer, so what is inside one says nothing about the cap. -/
theorem readCap_cut (given : Option Value) (n : Nat) :
    readCap (given.map (cut · n)) = readCap given := by
  cases given with
  | none => rfl
  | some v => cases v <;> rfl

theorem faultClass_flag (v : Value) : (SettingsError.naming v (.flag v)).faultClass = .value := by
  obtain same | same := SettingsError.naming_cases v (.flag v) <;> rw [same] <;> rfl

/-- Of a value that is no truth value the message may say more, the class does not. -/
theorem readFlag_cut (given : Option Value) (n : Nat) :
    upToClass (readFlag (given.map (cut · n))) = upToClass (readFlag given) := by
  cases given with
  | none => rfl
  | some v => cases v <;> simp [readFlag, cut, upToClass, Except.mapError, faultClass_flag]

/-- The names of hidden rules are one level further down. -/
theorem hiddenNames_cut (given : Option Value) (n : Nat) :
    hiddenNames (given.map (cut · (n + 1))) =
      (hiddenNames given).map (List.map (cut · n)) := by
  cases given with
  | none => rfl
  | some v =>
    simp only [Option.map_some, hiddenNames, Value.isVacant_cut]
    cases v.isVacant with
    | true => rfl
    | false =>
      cases v <;>
        simp [cut, Value.cutItems_succ, Value.cutEntries_succ, Value.cut_ofCodes, Except.map]

/-- Only texts name rules. -/
theorem resolve?_cut (v : Value) (n : Nat) :
    (RuleRef.given (v.cut n)).resolve? = (RuleRef.given v).resolve? := by
  cases v <;> rfl

/-- Of names that are cut the same ones are unknown. -/
theorem resolveAll_cut (names : List Value) (n : Nat) :
    upToClass (resolveAll (names.map (cut · n))) = upToClass (resolveAll names) := by
  induction names with
  | nil => rfl
  | cons v vs ih =>
    rw [List.map_cons, resolveAll, resolveAll, List.mapM_cons, List.mapM_cons, ← resolveAll,
      ← resolveAll, resolve?_cut]
    cases (RuleRef.given v).resolve? with
    | none => rfl
    | some id => rw [ok_bind, ok_bind, upToClass_bind, upToClass_bind, ih]

/-! ## Sections -/

/-- What is kept of the entries of a section. -/
abbrev cutSection (n : Nat) (entries : List (Value × Value)) : List (Value × Value) :=
  entries.map (Prod.map (cut · n) (cut · n))

/-- What is kept of the sections of a document. -/
def Sections.cut (s : Sections) (n : Nat) : Sections :=
  ⟨cutSection n s.autofill, cutSection n s.logging, cutSection n s.catalogue⟩

theorem sectionEntries_cut (name : String) (entries : List (Value × Value)) (n : Nat) :
    sectionEntries name (cutSection (n + 1) entries) =
      (sectionEntries name entries).map (cutSection n) := by
  have value : sectionValue name (cutSection (n + 1) entries) =
      (sectionValue name entries).cut (n + 1) := by
    rw [sectionValue, Value.get?_cut, sectionValue]
    cases Value.get? name entries <;> rfl
  rw [sectionEntries_eq, sectionEntries_eq, value, Value.entries?_cut, Value.kind_cut]
  cases (sectionValue name entries).entries? <;> rfl

theorem sectionsOf_cut (entries : List (Value × Value)) (n : Nat) :
    sectionsOf (cutSection (n + 1) entries) = (sectionsOf entries).map (·.cut n) := by
  simp only [sectionsOf, sectionEntries_cut]
  cases sectionEntries "autofill" entries with
  | error => rfl
  | ok autofill =>
    cases sectionEntries "logging" entries with
    | error => rfl
    | ok logging => cases sectionEntries "catalogue" entries <;> rfl

/-- The entries of the sections are two levels down. -/
theorem sections_cut (v : Value) (n : Nat) :
    sections (v.cut (n + 2)) = (sections v).map (·.cut n) := by
  rw [sections, sections, Value.entries?_cut, Value.kind_cut]
  cases v.entries? with
  | none => rfl
  | some entries => exact sectionsOf_cut entries n

/-- Below the entries of a section only the names of hidden rules count. -/
theorem ofSections_cut (s : Sections) (n : Nat) :
    upToClass (ofSections (s.cut (n + 1))) = upToClass (ofSections s) := by
  have hidden (k : List RuleId → Except FaultClass Settings) :
      (upToClass ((hiddenNames (Value.get? "hidden_rules" s.catalogue)).map (List.map (cut · n))) >>=
        fun names => upToClass (resolveAll names) >>= k) =
      upToClass (hiddenNames (Value.get? "hidden_rules" s.catalogue)) >>=
        fun names => upToClass (resolveAll names) >>= k := by
    cases hiddenNames (Value.get? "hidden_rules" s.catalogue) with
    | error => rfl
    | ok names => exact congrArg (· >>= k) (resolveAll_cut names n)
  simp only [ofSections, Sections.cut, Value.get?_cut, readCap_cut, hiddenNames_cut, upToClass_bind,
    readFlag_cut, hidden]

/-- The settings that a document describes, and the class of the fault if it describes none, are
decided by its first three levels. -/
theorem ofValue_cut (v : Value) (n : Nat) :
    upToClass (ofValue (v.cut (n + 3))) = upToClass (ofValue v) := by
  rw [ofValue_eq_bind, ofValue_eq_bind, sections_cut, upToClass_bind]
  cases sections v with
  | error => rfl
  | ok s => exact ofSections_cut s n

end Settings

end NaturalDeduction
