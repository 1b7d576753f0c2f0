import NaturalDeduction.Desk
import NaturalDeduction.Proofs.LoadedSettings

/-!
# Taking from open suggestions

Between two pieces that are taken from a sequence of suggestions anything may happen at the desk:
pieces are taken from other sequences, others are opened, steps are checked, the settings file is
replaced. None of it touches the sequence. So the pieces, put together, are what one single taking
of as many suggestions would have handed out.

`Desk.step_of_open` says what one event hands out from a place and what it leaves there, and
`Desk.run_of_open` says it of any run of events, by induction. What reader the events load settings
with makes no difference to either.
-/

namespace NaturalDeduction

namespace Desk

/-- What may happen at a desk. Verifiers other than the session's are known by the sequences that
they open; besides that, nothing they do shows at the desk. -/
inductive Event
  | replaceFile (file : SettingsFile)
  | reset
  | verify (rule : RuleRef) (conclusion : Formula) (cited : List Citation)
  | suggest (rule : RuleRef) (premises : List Premise)
  | lay (s : Suggestions)
  | take (place n : Nat)

/-- The desk after an event. -/
def step (reader : Reader) (d : Desk) : Event → Desk
  | .replaceFile file => { d with session := d.session.replaceFile file }
  | .reset => { d with session := d.session.reset }
  | .verify rule conclusion cited =>
    { d with session := (d.session.verify reader rule conclusion cited).2 }
  | .suggest rule premises => (d.openSuggestions reader rule premises).2
  | .lay s => d.lay s
  | .take place n => (d.take place n).2

/-- The desk after several events. -/
def run (reader : Reader) (d : Desk) (es : List Event) : Desk := es.foldl (step reader) d

/-- How many suggestions an event asks for at a place. -/
def Event.asks (place : Nat) : Event → Nat
  | .take i n => if i = place then n else 0
  | _ => 0

/-- How many suggestions several events ask for at a place, all together. -/
def asked (place : Nat) : List Event → Nat
  | [] => 0
  | e :: es => e.asks place + asked place es

/-- What an event hands out from a place. -/
def piece (d : Desk) (place : Nat) : Event → List String
  | .take i n => if i = place then (d.take i n).1 else []
  | _ => []

/-- What several events hand out from a place, one piece after the other. -/
def received (reader : Reader) (d : Desk) (place : Nat) : List Event → List String
  | [] => []
  | e :: es => d.piece place e ++ (d.step reader e).received reader place es

variable {reader : Reader} {d : Desk} {place : Nat} {s : Suggestions} {v : Verifier} {r : RuleRef}
  {ps : List Premise}

/-! ## One event -/

/-- Opening a sequence leaves those that are open in their places. -/
theorem lay_of_open (h : d.sequences[place]? = some s) (other : Suggestions) :
    (d.lay other).sequences[place]? = some s := by
  obtain ⟨inside, -⟩ := List.getElem?_eq_some_iff.mp h
  rw [lay, List.getElem?_append_left inside, h]

/-- Suggesting leaves the sequences as they are, or opens one more. -/
theorem openSuggestions_cases (reader : Reader) (d : Desk) (r : RuleRef) (ps : List Premise) :
    (d.openSuggestions reader r ps).2.sequences = d.sequences ∨
      ∃ s, (d.openSuggestions reader r ps).2.sequences = (d.lay s).sequences := by
  unfold openSuggestions
  dsimp only
  split
  next => exact .inr ⟨_, rfl⟩
  next => exact .inl rfl
  next => exact .inl rfl

/-- What the session's verifier suggests is opened, and the answer says where. -/
theorem openSuggestions_of_current? (current : d.session.current? reader = some v)
    (offered : (v.suggest r ps).outcome = .ok (some s)) :
    ∃ place, (d.openSuggestions reader r ps).1.outcome = .ok (some place) ∧
      (d.openSuggestions reader r ps).2.sequences[place]? = some s := by
  have answered : (d.session.suggest reader r ps).1.outcome = .ok (some s) :=
    (Session.request_of_current? (·.suggest r ps) current).1.trans offered
  simp only [openSuggestions, answered, lay]
  exact ⟨d.sequences.length, rfl, List.getElem?_concat_length⟩

/-- What is taken from a place comes from the sequence that is open there, and the rest stays
there. -/
theorem take_of_open (h : d.sequences[place]? = some s) (n : Nat) :
    (d.take place n).1 = (s.take n).1 ∧
      (d.take place n).2.sequences[place]? = some (s.take n).2 := by
  obtain ⟨inside, -⟩ := List.getElem?_eq_some_iff.mp h
  rw [take, h]
  exact ⟨rfl, List.getElem?_set_self inside⟩

/-- Taking from one place leaves the others alone. -/
theorem take_sequences_of_ne {other : Nat} (apart : other ≠ place) (n : Nat) :
    (d.take other n).2.sequences[place]? = d.sequences[place]? := by
  unfold take
  split
  next => rfl
  next => exact List.getElem?_set_ne apart

/-- An event hands out from a place as many suggestions as it asks for there, and leaves there what
comes after them. -/
theorem step_of_open (h : d.sequences[place]? = some s) (e : Event) :
    d.piece place e = (s.take (e.asks place)).1 ∧
      (d.step reader e).sequences[place]? = some (s.take (e.asks place)).2 := by
  cases e with
  | replaceFile file => exact ⟨rfl, h⟩
  | reset => exact ⟨rfl, h⟩
  | verify rule conclusion cited => exact ⟨rfl, h⟩
  | suggest rule premises =>
    refine ⟨rfl, ?_⟩
    rw [step]
    obtain same | ⟨other, opened⟩ := openSuggestions_cases reader d rule premises
    · rw [same]
      exact h
    · rw [opened]
      exact lay_of_open h other
  | lay other => exact ⟨rfl, lay_of_open h other⟩
  | take i n =>
    rw [piece, step, Event.asks]
    by_cases here : i = place
    · subst here
      rw [if_pos rfl, if_pos rfl]
      exact take_of_open h n
    · rw [if_neg here, if_neg here, take_sequences_of_ne here]
      exact ⟨rfl, h⟩

/-! ## Runs -/

/-- The pieces that are taken from a place in the course of a run are, put together, what taking
them in one go would hand out, and it would leave the same. -/
theorem run_of_open (h : d.sequences[place]? = some s) (es : List Event) :
    d.received reader place es = (s.take (asked place es)).1 ∧
      (d.run reader es).sequences[place]? = some (s.take (asked place es)).2 := by
  induction es generalizing d s with
  | nil => exact ⟨rfl, h⟩
  | cons e es ih =>
    obtain ⟨now, left⟩ := step_of_open h e
    obtain ⟨later, left⟩ := ih left
    rw [received, now, later, asked, Suggestions.take_add]
    exact ⟨rfl, left⟩

/-- Once a place has handed out fewer suggestions than it was asked for, it hands out no more. -/
theorem received_of_exhausted {es : List Event} (h : d.sequences[place]? = some s)
    (short : (d.received reader place es).length < asked place es) (more : List Event) :
    (d.run reader es).received reader place more = [] := by
  obtain ⟨got, left⟩ := run_of_open h es
  rw [got] at short
  rw [(run_of_open left more).1,
    Suggestions.take_of_next?_eq_none (Suggestions.next?_take_of_short short)]

end Desk

namespace Verifier

open Suggestions

variable {v : Verifier} {r : RuleRef} {id : RuleId} {ps : List Premise} {φs : List Formula}
  {cap : Nat}

/-- Under a cap that can be counted up to, the suggestions are the distinct texts of the formulas
that the rule proposes, cut to the cap. -/
theorem exists_take_of_cap (found : r.resolve? = some id)
    (proposed : id.rule.propose ps = .ok (some φs)) (capped : v.settings.maxSuggestions = cap)
    (countable : (cap : Int) ≤ maxCap) :
    ∃ s, (v.suggest r ps).outcome = .ok (some s) ∧
      ∀ n, (s.take n).1 = ((texts φs).take cap).take n := by
  refine ⟨{ pending := φs, left := cap }, ?_, take_fresh φs cap⟩
  rw [suggest_of_propose found proposed, capped, if_pos ⟨Int.natCast_nonneg cap, countable⟩]
  rfl

/-- For premises that a rule has something to propose for, and a cap that can be counted up to, the
suggestions are the texts of the proposed formulas, each once, in the order of their first
occurrence, cut to the cap. The session opens them at a place. Wherever they are open, and whatever
happens at the desk, with whatever reader, the pieces that are taken from there are, put together,
as many of the suggestions as have been asked for, from the first one on; and when there were fewer
than that, no more are to be had. A verifier with a greater cap hands out the same and goes on from
there. -/
theorem suggests_first_occurrences (reader : Reader) (found : r.resolve? = some id)
    (proposed : id.rule.propose ps = .ok (some φs)) (capped : v.settings.maxSuggestions = cap)
    (countable : (cap : Int) ≤ maxCap) :
    FirstOccurrences (φs.map Formula.text) (texts φs) ∧
    ∃ s, (v.suggest r ps).outcome = .ok (some s) ∧
      (∀ d : Desk, d.session.current? reader = some v →
        ∃ place, (d.openSuggestions reader r ps).1.outcome = .ok (some place) ∧
          (d.openSuggestions reader r ps).2.sequences[place]? = some s) ∧
      (∀ (d : Desk) (place : Nat), d.sequences[place]? = some s → ∀ es,
        d.received reader place es = ((texts φs).take cap).take (Desk.asked place es) ∧
        ((d.received reader place es).length < Desk.asked place es →
          ∀ more, (d.run reader es).received reader place more = [])) ∧
      ∀ (w : Verifier) (greater : Nat), w.settings.maxSuggestions = greater → cap ≤ greater →
        (greater : Int) ≤ maxCap →
        ∃ t, (w.suggest r ps).outcome = .ok (some t) ∧ ∀ n, (s.take n).1 <+: (t.take n).1 := by
  obtain ⟨s, offered, taken⟩ := exists_take_of_cap found proposed capped countable
  refine ⟨firstOccurrences_texts φs, s, offered, ?opened, ?pieces, ?greater⟩
  case opened => exact fun d current => Desk.openSuggestions_of_current? current offered
  case pieces =>
    intro d place here es
    refine ⟨?_, Desk.received_of_exhausted here⟩
    rw [(Desk.run_of_open here es).1, taken]
  case greater =>
    intro w greater capped' more countable'
    obtain ⟨t, offered', taken'⟩ := exists_take_of_cap found proposed capped' countable'
    refine ⟨t, offered', fun n => ?_⟩
    rw [taken, taken', List.take_take, List.take_take]
    exact List.take_prefix_take_left (by omega)

/-- Of three distinct conjuncts a cap of two lets two through. Between the two pieces that are taken
of them another sequence is opened and taken from, and the file is replaced; the third time there is
nothing left. -/
theorem suggests_first_occurrences_of_pieces :
    let v : Verifier := { settings := { maxSuggestions := 2 } }
    let ps := [Premise.plain (.conj [.atom "P", .atom "Q", .atom "P", .atom "R"])]
    let es : List Desk.Event := [.suggest (.known .reiteration) [.plain (.atom "S")], .take 0 1,
      .take 1 1, .replaceFile .directory, .take 0 5]
    ∃ s, (v.suggest (.known .simplification) ps).outcome = .ok (some s) ∧
      Desk.received Document.standard { sequences := [s] } 0 es = ["P", "Q"] ∧
      ∀ more, (Desk.run Document.standard { sequences := [s] } es).received Document.standard 0 more =
        [] := by
  intro v ps es
  have found : (RuleRef.known .simplification).resolve? = some .simplification := rfl
  have proposed : RuleId.simplification.rule.propose ps =
      .ok (some [.atom "P", .atom "Q", .atom "P", .atom "R"]) := rfl
  have capped : v.settings.maxSuggestions = (2 : Nat) := rfl
  obtain ⟨-, s, offered, -, pieces, -⟩ :=
    suggests_first_occurrences Document.standard found proposed capped (by decide)
  obtain ⟨got, spent⟩ := pieces { sequences := [s] } 0 rfl es
  have first : Desk.received Document.standard { sequences := [s] } 0 es = ["P", "Q"] :=
    got.trans (by decide)
  refine ⟨s, offered, first, spent ?_⟩
  rw [first]
  decide

end Verifier

end NaturalDeduction
