import NaturalDeduction.Document.Reader
import NaturalDeduction.Settings.File
import NaturalDeduction.Value.Written

/-!
# The reader for settings files

`Document.standard` makes a `Reader` of `Document.read`: it says in which words and in which class a
text is refused. A text that breaks the rules of the format is refused by a placeholder. So is one
that uses a part of the format that `Document.read` does not support, but in a class of its own,
which is not forgiven.
-/

namespace NaturalDeduction.Document

namespace DocumentError

/-- A fault in words. -/
def message : DocumentError → String
  | malformed => "<yaml error>"
  | unsupported => "anchors, aliases, tags and directives are not supported"
  | noSuchCharacter => "chr() arg not in range(0x110000)"
  | escapeTooLarge => "Python int too large to convert to C int"
  | weightTooLarge => "int too large to convert to float"
  | noDigits base => s!"invalid literal for int() with base {base}: ''"
  | tooManyDigits count => SettingsError.message.tooManyDigits count
  | yearOutOfRange => "year 0 is out of range"
  | monthOutOfRange => "month must be in 1..12"
  | dayOutOfRange => "day is out of range for month"
  | hourOutOfRange => "hour must be in 0..23"
  | minuteOutOfRange => "minute must be in 0..59"
  | secondOutOfRange => "second must be in 0..59"
  | offsetOutOfRange minutes =>
    "offset must be a timedelta strictly between -timedelta(hours=24) and timedelta(hours=24), " ++
      s!"not {DateTime.writtenMinutes minutes}."

/-- The class of a fault. -/
def faultClass : DocumentError → FaultClass
  | malformed => .format
  | unsupported => .other "NotImplementedError"
  | escapeTooLarge | weightTooLarge => .overflow
  | _ => .value

end DocumentError

/-- The reader for settings files. -/
def standard : Reader where
  read text := (read text).mapError fun e => { faultClass := e.faultClass, message := e.message }

end NaturalDeduction.Document
