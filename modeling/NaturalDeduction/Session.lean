import NaturalDeduction.Verifier

/-!
# Sessions

A session has a settings file, which may be replaced at any time, and one verifier of its own. The
verifier is made from the file when it is first needed and kept from then on, whatever becomes of
the file. If making it fails, nothing is kept, and the next request tries again. Every request says
what reader the file is to be read with, if it is.
-/

namespace NaturalDeduction

/-- The settings file as it is now, and the verifier once it has been made. -/
structure Session where
  file : SettingsFile := .absent
  verifier : Option Verifier := none

namespace Session

/-- Replaces the settings file. -/
def replaceFile (s : Session) (file : SettingsFile) : Session := { s with file }

/-- Forgets the verifier. -/
def reset (s : Session) : Session := { s with verifier := none }

/-- Makes a verifier from a file; without usable settings it has the defaults. -/
def makeVerifier (reader : Reader) (file : SettingsFile) : Reply Verifier :=
  match Settings.loadOrDefault reader file with
  | .settings settings => { outcome := .ok { settings } }
  | .missing => { outcome := .ok {} }
  | .ignored why => { outcome := .ok {}, log := [.settingsIgnored why] }
  | .failed why => { outcome := .error (.settings why) }

/-- The session's verifier, made now if there is none, and the session that has it. -/
def obtain (reader : Reader) (s : Session) : Reply Verifier × Session :=
  match s.verifier with
  | some v => ({ outcome := .ok v }, s)
  | none =>
    let made := makeVerifier reader s.file
    match made.outcome with
    | .ok v => (made, { s with verifier := some v })
    | .error _ => (made, s)

/-- Makes a request to the session's verifier. -/
def request {α : Type} (reader : Reader) (s : Session) (ask : Verifier → Reply α) :
    Reply α × Session :=
  let (made, s) := s.obtain reader
  match made.outcome with
  | .ok v => let reply := ask v; ({ reply with log := made.log ++ reply.log }, s)
  | .error fault => ({ outcome := .error fault, log := made.log }, s)

/-- Checks a step with the session's verifier. -/
def verify (reader : Reader) (s : Session) (rule : RuleRef) (conclusion : Formula)
    (cited : List Citation) : Reply Result × Session :=
  s.request reader (·.verifyStep rule conclusion cited)

/-- Suggests conclusions with the session's verifier. -/
def suggest (reader : Reader) (s : Session) (rule : RuleRef) (premises : List Premise) :
    Reply (Option Suggestions) × Session :=
  s.request reader (·.suggest rule premises)

/-- The settings of the session's verifier. -/
def settings (reader : Reader) (s : Session) : Reply Settings × Session :=
  s.request reader fun v => { outcome := .ok v.settings }

end Session

end NaturalDeduction
