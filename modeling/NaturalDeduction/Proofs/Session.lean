import NaturalDeduction.Document.Standard
import NaturalDeduction.Session
import NaturalDeduction.Proofs.Suggestions
import NaturalDeduction.Proofs.Verifier

/-!
# What a session keeps

A session that starts with no verifier goes through any number of events: its file is replaced, or
it is called to check a step or to suggest conclusions. A call consults the file as it is then, but
only as long as no verifier has been made. So the verifier goes by the first file that a call has
consulted and that loading has not failed for, and later files count for nothing.

`Session.current?` is the verifier that a call goes by. What a call answers and what it leaves
behind follow from it, and the rest of a run follows by induction on its events. All of this holds
of any reader, as long as the calls of a run use the same one. -/

namespace NaturalDeduction

/-- The settings that an attempt to load them leads to: the defaults if there are none, and no
settings at all if it failed. -/
def Settings.Loaded.usable? : Settings.Loaded → Option Settings
  | .settings s => some s
  | .missing | .ignored _ => some {}
  | .failed _ => none

/-- No settings come of loading that has failed, and of nothing else. -/
theorem Settings.Loaded.usable?_eq_none_iff {loaded : Settings.Loaded} :
    loaded.usable? = none ↔ ∃ why, loaded = .failed why := by
  cases loaded <;> simp [usable?]

/-- Where there are no settings, or none worth a complaint, the defaults are used. -/
theorem Settings.usable?_of_forgiven {reader : Reader} {file : SettingsFile}
    (h : file = .absent ∨ ∃ why, Settings.load reader file = .error why ∧ why.isForgiven = true) :
    (Settings.loadOrDefault reader file).usable? = some {} := by
  obtain rfl | ⟨why, unloaded, forgiven⟩ := h
  · rfl
  · cases file <;> simp [Settings.loadOrDefault, unloaded, forgiven, Loaded.usable?]

/-- The suggestions of a verifier are those of the rule, cut to the cap of its settings. -/
theorem Verifier.exists_texts_of_suggest {v : Verifier} {r : RuleRef} {ps : List Premise}
    {given : Suggestions} (h : (v.suggest r ps).outcome = .ok (some given)) :
    ∃ id φs, ∃ cap : Nat, v.settings.maxSuggestions = cap ∧ r.resolve? = some id ∧
      id.rule.propose ps = .ok (some φs) ∧
      ∀ n, (given.take n).1 = ((Suggestions.texts φs).take cap).take n := by
  cases found : r.resolve? with
  | none =>
    simp [suggest, withRule, found] at h
  | some id =>
    simp only [suggest, withRule, found] at h
    split at h
    next => cases h
    next => cases h
    next φs proposed =>
      split at h
      next inRange =>
        cases h
        have whole := (Int.toNat_of_nonneg inRange.1).symm
        exact ⟨id, φs, _, whole, rfl, proposed, Suggestions.take_fresh φs _⟩
      next => cases h

namespace Session

/-- A call to a session. -/
inductive Call
  | verify (rule : RuleRef) (conclusion : Formula) (cited : List Citation)
  | suggest (rule : RuleRef) (premises : List Premise)

/-- What may happen to a session. -/
inductive Event
  | replaceFile (file : SettingsFile)
  | call (c : Call)

/-- The session after an event. -/
def step (reader : Reader) (s : Session) : Event → Session
  | .replaceFile file => s.replaceFile file
  | .call (.verify rule conclusion cited) => (s.verify reader rule conclusion cited).2
  | .call (.suggest rule premises) => (s.suggest reader rule premises).2

/-- The session after several events. -/
def run (reader : Reader) (s : Session) (es : List Event) : Session := es.foldl (step reader) s

/-- The files that calls come upon, the first of them before any replacement. -/
def filesAtCalls (file : SettingsFile) : List Event → List SettingsFile
  | [] => []
  | .replaceFile file :: es => filesAtCalls file es
  | .call _ :: es => file :: filesAtCalls file es

/-- The settings of the first file that a call comes upon and that does not fail to load. -/
def firstUsable (reader : Reader) (file : SettingsFile) (es : List Event) : Option Settings :=
  (filesAtCalls file es).findSome? fun found => (Settings.loadOrDefault reader found).usable?

/-- The verifier that a call would go by: the one that is kept, or else one that is made now. -/
def current? (reader : Reader) (s : Session) : Option Verifier :=
  s.verifier.or ((Settings.loadOrDefault reader s.file).usable?.map Verifier.mk)

variable {reader : Reader} {s : Session} {v : Verifier} {why : LoadError}

/-- A verifier that is kept is the one that calls go by. -/
theorem current?_of_verifier (reader : Reader) (kept : s.verifier = some v) :
    s.current? reader = some v := by
  simp [current?, kept]

/-! ## One call -/

/-- Making a verifier answers with the settings that loading leads to, or fails as loading does. -/
theorem makeVerifier_outcome (reader : Reader) (file : SettingsFile) :
    (∃ settings, (Settings.loadOrDefault reader file).usable? = some settings ∧
      (makeVerifier reader file).outcome = .ok { settings }) ∨
    ∃ why, Settings.loadOrDefault reader file = .failed why ∧
      (makeVerifier reader file).outcome = .error (.settings why) := by
  unfold makeVerifier
  cases loaded : Settings.loadOrDefault reader file with
  | settings given => exact .inl ⟨given, rfl, rfl⟩
  | missing => exact .inl ⟨{}, rfl, rfl⟩
  | ignored why => exact .inl ⟨{}, rfl, rfl⟩
  | failed why => exact .inr ⟨why, rfl, rfl⟩

/-- A session either has a verifier to go by, which it keeps, or has none and stays as it is. -/
theorem obtain_cases (reader : Reader) (s : Session) :
    (∃ v, s.current? reader = some v ∧ (s.obtain reader).1.outcome = .ok v ∧
      (s.obtain reader).2 = { s with verifier := some v }) ∨
    s.verifier = none ∧ s.current? reader = none ∧
      ∃ why, Settings.loadOrDefault reader s.file = .failed why ∧
        (s.obtain reader).1.outcome = .error (.settings why) ∧ (s.obtain reader).2 = s := by
  obtain ⟨file, kept⟩ := s
  cases kept with
  | some v => exact .inl ⟨v, rfl, rfl, rfl⟩
  | none =>
    obtain ⟨settings, usable, made⟩ | ⟨why, failed, made⟩ := makeVerifier_outcome reader file
    · refine .inl ⟨{ settings }, ?_, ?_, ?_⟩
      · simp [current?, usable]
      · simp [obtain, made]
      · simp [obtain, made]
    · refine .inr ⟨rfl, ?_, why, failed, ?_, ?_⟩
      · simp [current?, failed, Settings.Loaded.usable?]
      · simp [obtain, made]
      · simp [obtain, made]

section Request

variable {α : Type} (ask : Verifier → Reply α)

/-- A call is answered by the verifier that the session goes by, and this one is kept. -/
theorem request_of_current? (h : s.current? reader = some v) :
    (s.request reader ask).1.outcome = (ask v).outcome ∧
      (s.request reader ask).2 = { s with verifier := some v } := by
  obtain ⟨w, current, made, kept⟩ | ⟨-, none, -⟩ := obtain_cases reader s
  · obtain rfl : w = v := Option.some.inj (current.symm.trans h)
    simp [request, made, kept]
  · exact absurd (none.symm.trans h) (by simp)

/-- A call for which no verifier can be made is refused and leaves nothing behind. -/
theorem request_of_failed (none : s.verifier = none)
    (failed : Settings.loadOrDefault reader s.file = .failed why) :
    (s.request reader ask).1.outcome = .error (.settings why) ∧ (s.request reader ask).2 = s := by
  have nothing : s.current? reader = .none := by
    simp [current?, none, failed, Settings.Loaded.usable?]
  obtain ⟨w, current, -⟩ | ⟨-, -, why', failed', made, same⟩ := obtain_cases reader s
  · exact absurd (nothing.symm.trans current) (by simp)
  · obtain rfl : why' = why := Settings.Loaded.failed.inj (failed'.symm.trans failed)
    simp [request, made, same]

/-- After a call a session has the verifier that the call went by, if there was one. -/
theorem request_session (s : Session) :
    (s.request reader ask).2 = { s with verifier := s.current? reader } := by
  cases current : s.current? reader with
  | some v => exact (request_of_current? ask current).2
  | none =>
    obtain ⟨v, other, -⟩ | ⟨none, -, why, failed, -⟩ := obtain_cases reader s
    · exact absurd (current.symm.trans other) (by simp)
    · rw [(request_of_failed ask none failed).2, ← none]

end Request

/-- A call of either kind leaves the session with the verifier that it went by. -/
theorem step_call (s : Session) (c : Call) :
    s.step reader (.call c) = { s with verifier := s.current? reader } := by
  cases c <;> exact request_session _ s

/-- A step is checked with the outcome that it has by default, unless no verifier can be made. -/
theorem verify_outcome (reader : Reader) (s : Session) (r : RuleRef) (c : Formula)
    (cited : List Citation) :
    (s.verify reader r c cited).1.outcome = (({} : Verifier).verifyStep r c cited).outcome ∨
      s.verifier = none ∧ ∃ why, Settings.loadOrDefault reader s.file = .failed why := by
  obtain ⟨v, current, -⟩ | ⟨none, -, why, failed, -⟩ := obtain_cases reader s
  · exact .inl ((request_of_current? _ current).1.trans
      (Verifier.verifyStep_outcome_eq v {} r c cited))
  · exact .inr ⟨none, why, failed⟩

/-- Where suggestions are handed out there is a verifier to go by, and they are those of the rule,
cut to the cap of its settings. -/
theorem exists_texts_of_suggest {r : RuleRef} {ps : List Premise} {given : Suggestions}
    (offered : (s.suggest reader r ps).1.outcome = .ok (some given)) :
    ∃ v id φs, ∃ cap : Nat, s.current? reader = some v ∧ v.settings.maxSuggestions = cap ∧
      r.resolve? = some id ∧ id.rule.propose ps = .ok (some φs) ∧
      ∀ n, (given.take n).1 = ((Suggestions.texts φs).take cap).take n := by
  obtain ⟨v, current, -⟩ | ⟨none, -, why, failed, -⟩ := obtain_cases reader s
  · have answered := (request_of_current? (·.suggest r ps) current).1
    obtain ⟨id, φs, cap, rest⟩ := Verifier.exists_texts_of_suggest (answered.symm.trans offered)
    exact ⟨v, id, φs, cap, current, rest⟩
  · have refused := (request_of_failed (·.suggest r ps) none failed).1
    exact absurd (refused.symm.trans offered) (by simp)

/-- As long as no verifier can be made, calls of either kind are refused and change nothing. -/
theorem refuses_calls (none : s.verifier = none)
    (failed : Settings.loadOrDefault reader s.file = .failed why) :
    (∀ r c cited, (s.verify reader r c cited).1.outcome = .error (.settings why)) ∧
      (∀ r ps, (s.suggest reader r ps).1.outcome = .error (.settings why)) ∧
      ∀ c, s.step reader (.call c) = s := by
  refine ⟨fun r c cited => ?_, fun r ps => ?_, fun c => ?_⟩
  · exact (request_of_failed _ none failed).1
  · exact (request_of_failed _ none failed).1
  · cases c with
    | verify r c cited => exact (request_of_failed _ none failed).2
    | suggest r ps => exact (request_of_failed _ none failed).2

/-! ## Runs -/

theorem run_append (s : Session) (es more : List Event) :
    s.run reader (es ++ more) = (s.run reader es).run reader more := List.foldl_append

/-- The first usable file is the one that the first call comes upon, if it can be used. -/
theorem firstUsable_call (file : SettingsFile) (c : Call) (es : List Event) :
    firstUsable reader file (.call c :: es) =
      (Settings.loadOrDefault reader file).usable?.or (firstUsable reader file es) := by
  rw [firstUsable, filesAtCalls, List.findSome?_cons, firstUsable]
  cases (Settings.loadOrDefault reader file).usable? <;> rfl

/-- The verifier after a run is the one that was kept before it, or else the one of the first file
that a call came upon and that could be used. -/
theorem run_verifier (reader : Reader) (s : Session) (es : List Event) :
    (s.run reader es).verifier =
      s.verifier.or ((firstUsable reader s.file es).map Verifier.mk) := by
  induction es generalizing s with
  | nil => simp [run, firstUsable, filesAtCalls]
  | cons e es ih =>
    rw [run, List.foldl_cons, ← run, ih]
    cases e with
    | replaceFile file => rfl
    | call c => rw [step_call, firstUsable_call, Option.map_or, ← Option.or_assoc, current?]

/-- A verifier that has been made stays, whatever happens to the session. -/
theorem run_verifier_of_kept (kept : s.verifier = some v) (es : List Event) :
    (s.run reader es).verifier = some v := by
  rw [run_verifier, kept, Option.some_or]

/-- A call goes by the settings that are kept after it. -/
theorem current?_run (file : SettingsFile) (es : List Event) (c : Call) :
    (run reader { file } es).current? reader =
      (firstUsable reader file (es ++ [.call c])).map Verifier.mk := by
  have kept := run_verifier reader { file } (es ++ [.call c])
  rw [run_append, run, List.foldl_cons, List.foldl_nil, step_call] at kept
  simpa using kept

/-- What is suggested in the course of a run is cut to the cap of the first file that a call could
use, be it the call that asks for the suggestions. -/
theorem run_suggest {file : SettingsFile} {es : List Event} {r : RuleRef} {ps : List Premise}
    {given : Suggestions}
    (offered : ((run reader { file } es).suggest reader r ps).1.outcome = .ok (some given)) :
    ∃ settings id φs, ∃ cap : Nat,
      firstUsable reader file (es ++ [.call (.suggest r ps)]) = some settings ∧
      settings.maxSuggestions = cap ∧ r.resolve? = some id ∧
      id.rule.propose ps = .ok (some φs) ∧
      ∀ n, (given.take n).1 = ((Suggestions.texts φs).take cap).take n := by
  obtain ⟨v, id, φs, cap, current, rest⟩ := exists_texts_of_suggest offered
  rw [current?_run file es (.suggest r ps), Option.map_eq_some_iff] at current
  obtain ⟨settings, first, rfl⟩ := current
  exact ⟨settings, id, φs, cap, first, rest⟩

/-- If the first file that does not fail to load is absent or has a forgiven fault, the settings are
the defaults. -/
theorem firstUsable_of_forgiven {file found : SettingsFile} {es : List Event}
    {earlier later : List SettingsFile} (files : filesAtCalls file es = earlier ++ found :: later)
    (unusable : ∀ f ∈ earlier, ∃ why, Settings.loadOrDefault reader f = .failed why)
    (forgiven : found = .absent ∨
      ∃ why, Settings.load reader found = .error why ∧ why.isForgiven = true) :
    firstUsable reader file es = some {} := by
  refine List.findSome?_eq_some_iff.mpr ⟨earlier, found, later, files, ?_, ?_⟩
  · exact Settings.usable?_of_forgiven forgiven
  · exact fun f mem => Settings.Loaded.usable?_eq_none_iff.mpr (unusable f mem)

/-- A session that starts with no verifier gets the one of the first file that a call comes upon and
that does not fail to load, and keeps it whatever happens. A call for which loading fails is refused
and changes nothing. Any other check of a step comes out as it does by default, and suggestions are
those of the rule, cut to the cap of that first file: it is 32 if there was no file, or if its fault
was forgiven. -/
theorem keeps_first_usable_settings (reader : Reader) (file : SettingsFile) (es : List Event) :
    (run reader { file } es).verifier = (firstUsable reader file es).map Verifier.mk ∧
    (∀ v, (run reader { file } es).verifier = some v →
      ∀ more, (run reader { file } (es ++ more)).verifier = some v) ∧
    (∀ why, (run reader { file } es).verifier = none →
      Settings.loadOrDefault reader (run reader { file } es).file = .failed why →
      (∀ r c cited,
        ((run reader { file } es).verify reader r c cited).1.outcome = .error (.settings why)) ∧
      (∀ r ps, ((run reader { file } es).suggest reader r ps).1.outcome = .error (.settings why)) ∧
      ∀ c, run reader { file } (es ++ [.call c]) = run reader { file } es) ∧
    (∀ r c cited,
      ((run reader { file } es).verify reader r c cited).1.outcome =
        (({} : Verifier).verifyStep r c cited).outcome ∨
      (run reader { file } es).verifier = none ∧
        ∃ why, Settings.loadOrDefault reader (run reader { file } es).file = .failed why) ∧
    (∀ r ps given, ((run reader { file } es).suggest reader r ps).1.outcome = .ok (some given) →
      ∃ settings id φs, ∃ cap : Nat,
        firstUsable reader file (es ++ [.call (.suggest r ps)]) = some settings ∧
        settings.maxSuggestions = cap ∧ r.resolve? = some id ∧
        id.rule.propose ps = .ok (some φs) ∧
        ∀ n, (given.take n).1 = ((Suggestions.texts φs).take cap).take n) ∧
    (∀ earlier found later, filesAtCalls file es = earlier ++ found :: later →
      (∀ f ∈ earlier, ∃ why, Settings.loadOrDefault reader f = .failed why) →
      (found = .absent ∨ ∃ why, Settings.load reader found = .error why ∧ why.isForgiven = true) →
      (firstUsable reader file es).map Settings.maxSuggestions = some 32) := by
  refine ⟨?made, ?kept, ?refused, fun _ _ _ => verify_outcome reader _ _ _ _,
    fun _ _ _ => run_suggest, ?capped⟩
  case made => simpa using run_verifier reader { file } es
  case kept =>
    intro v kept more
    rw [run_append]
    exact run_verifier_of_kept kept more
  case refused =>
    intro why none failed
    obtain ⟨checks, suggestions, calls⟩ := refuses_calls none failed
    refine ⟨checks, suggestions, fun c => ?_⟩
    rw [run_append]
    exact calls c
  case capped =>
    intro earlier found later files unusable forgiven
    rw [firstUsable_of_forgiven files unusable forgiven]
    rfl

/-- A file that hides an unknown rule is of no use to the first call. The second call finds a file
with a cap of two that hides Simplification, and then there is no file any more. From then on there
are two suggestions out of three, and the hidden rule is still verified. -/
theorem keeps_first_usable_settings_of_history :
    let reader := Document.standard
    let unknown := "catalogue:\n hidden_rules: [zz]".toUTF8.data.toList
    let two := ("autofill:\n max_suggestions: 2\n" ++
      "catalogue:\n hidden_rules: [simplification]").toUTF8.data.toList
    let ps := [Premise.plain (.conj [.atom "P", .atom "Q", .atom "R"])]
    let ask := Call.suggest (.known .simplification) ps
    let s := run reader { file := .bytes unknown }
      [.call ask, .replaceFile (.bytes two), .call ask, .replaceFile .absent]
    (∃ given, (s.suggest reader (.known .simplification) ps).1.outcome = .ok (some given) ∧
      (given.take 3).1 = ["P", "Q"]) ∧
    (s.verify reader (.known .simplification) (.atom "R") (ps.map .premise)).1.outcome =
      .ok ⟨.simplification, .valid⟩ := by
  intro reader unknown two ps ask s
  have failed : (Settings.loadOrDefault reader (.bytes unknown)).usable? = none := by
    decide +kernel
  have loaded : (Settings.loadOrDefault reader (.bytes two)).usable? =
      some { maxSuggestions := 2, hiddenRules := [.simplification] } := by decide +kernel
  -- What the files come to is all that matters, and they are not read again.
  clear_value reader unknown two
  obtain ⟨made, -, -, checked, suggested, -⟩ := keeps_first_usable_settings reader (.bytes unknown)
    [.call ask, .replaceFile (.bytes two), .call ask, .replaceFile .absent]
  have first (later : List Event) : firstUsable reader (.bytes unknown) (.call ask ::
      .replaceFile (.bytes two) :: .call ask :: later) =
        some { maxSuggestions := 2, hiddenRules := [.simplification] } := by
    rw [firstUsable_call, failed, Option.none_or, firstUsable, filesAtCalls, ← firstUsable,
      firstUsable_call, loaded, Option.some_or]
  rw [first] at made
  refine ⟨?_, ?_⟩
  · have offered := (request_of_current? (·.suggest (.known .simplification) ps)
      (current?_of_verifier reader made)).1
    refine ⟨_, offered, ?_⟩
    obtain ⟨settings, id, φs, cap, usable, capped, resolved, proposed, taken⟩ :=
      suggested _ _ _ offered
    cases (first _).symm.trans usable
    cases resolved
    cases proposed
    obtain rfl : cap = 2 := by
      dsimp only at capped
      omega
    rw [taken]
    decide
  · rcases checked (.known .simplification) (.atom "R") (ps.map .premise) with same | ⟨none, -⟩
    · rw [same]
      rfl
    · exact absurd (none.symm.trans made) (by simp)

end Session

end NaturalDeduction
