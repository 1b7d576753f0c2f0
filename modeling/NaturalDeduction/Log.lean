import NaturalDeduction.Settings.File

/-!
# Log entries

What the verifier reports on the side: the outcome of each verification, suggestions that there are
none of, and a settings file that was ignored.
-/

namespace NaturalDeduction

/-- How much a log entry matters. -/
inductive LogLevel
  | debug
  | info
  | warning
  deriving DecidableEq, Repr

/-- The name of a level. -/
def LogLevel.name : LogLevel → String
  | debug => "DEBUG"
  | info => "INFO"
  | warning => "WARNING"

/-- One entry of the log. -/
inductive LogEntry
  /-- The premises have the wrong shape, reported loudly or not. -/
  | shapeMismatch (loud : Bool) (rule : RuleId) (why : Diagnostic)
  | accepted (rule : RuleId) (conclusion : Formula)
  | rejected (rule : RuleId) (conclusion : Formula) (why : Diagnostic)
  | noSuggestion (rule : RuleId) (premises : Nat)
  | settingsIgnored (why : LoadError)

namespace LogEntry

/-- The level of an entry. -/
def level : LogEntry → LogLevel
  | shapeMismatch loud _ _ => if loud then .info else .debug
  | accepted _ _ | rejected _ _ _ | noSuggestion _ _ => .debug
  | settingsIgnored _ => .warning

/-- An entry in words. -/
def message : LogEntry → String
  | shapeMismatch _ rule why => s!"[VERIFY] {rule.key} premise shape mismatch: {why.message}"
  | accepted rule conclusion => s!"[VERIFY] {rule.key} accepted {conclusion.text}"
  | rejected rule conclusion why =>
    s!"[VERIFY] {rule.key} rejected {conclusion.text}: {why.message}"
  | noSuggestion rule premises =>
    s!"[AUTOFILL] {rule.rule.shortName}: no suggestion for {premises} premise(s)"
  | settingsIgnored why => s!"[CONFIG] Ignoring unreadable verifier config <path>: {why.message}"

end LogEntry

end NaturalDeduction
