import NaturalDeduction.Settings.Basic
import NaturalDeduction.Text.Utf8

/-!
# The settings file

The file that settings are read from may be missing, be a directory, or hold bytes. `Settings.load`
reads it and says what is wrong with it. `Settings.loadOrDefault` is forgiving: a file that is
missing or cannot be used means that there are no settings, and the caller falls back to the
defaults. Whether a fault is forgiven goes by its class alone. Two classes that settings may fall
into are not forgiven: that of hidden rules that are unknown, and that of an infinite cap.

What value a text writes is up to a `Reader`. Nothing is known about it but that it is a function:
for a text it has a value, or a fault of some class. Values are finite, and a document in which a
collection contains itself is given unrolled. How far does not matter from three levels on, as
`Settings.ofValue_cut` shows.

Messages name neither the path of the file nor the place of a fault in its text; placeholders stand
for both.
-/

namespace NaturalDeduction

/-- Why a text is not read: a fault of some class, in the words of the reader. -/
structure ReadFault where
  faultClass : FaultClass
  message : String

/-- What reads documents: the value that a text writes, or why it writes none. -/
structure Reader where
  read : List Char → Except ReadFault Value

/-- What is found at the path of the settings file. -/
inductive SettingsFile
  | absent
  | directory
  | bytes (content : List UInt8)

/-- Why settings cannot be loaded. -/
inductive LoadError
  | notFound
  | isDirectory
  | undecodable (e : Text.Utf8Error)
  | unreadable (e : ReadFault)
  | unusable (e : SettingsError)

namespace LoadError

/-- A fault of loading in words. -/
def message : LoadError → String
  | notFound => "[Errno 2] No such file or directory: '<path>'"
  | isDirectory => "[Errno 21] Is a directory: '<path>'"
  | undecodable e => e.message
  | unreadable e => e.message
  | unusable e => e.message

/-- The class of a fault of loading. -/
def faultClass : LoadError → FaultClass
  | notFound | isDirectory => .system
  | undecodable _ => .value
  | unreadable e => e.faultClass
  | unusable e => e.faultClass

/-- The classes of the faults that are forgiven. -/
def forgivenClasses : List FaultClass := [.system, .type, .value, .format]

/-- Whether a fault is forgiven. -/
def isForgiven (why : LoadError) : Bool := why.faultClass ∈ forgivenClasses

end LoadError

/-- The document that a file holds. -/
def SettingsFile.document (reader : Reader) : SettingsFile → Except LoadError Value
  | .absent => .error .notFound
  | .directory => .error .isDirectory
  | .bytes content => do
    let text ← (Text.decodeUtf8 content).mapError .undecodable
    (reader.read (Text.unifyLineEnds text)).mapError .unreadable

namespace Settings

/-- The settings that a file holds. -/
def load (reader : Reader) (file : SettingsFile) : Except LoadError Settings := do
  let document ← file.document reader
  (ofValue document).mapError .unusable

/-- What came of a forgiving attempt to load settings. -/
inductive Loaded
  | settings (s : Settings)
  | missing
  | ignored (why : LoadError)
  | failed (why : LoadError)

/-- Loads settings if there are any, and ignores a file with a forgiven fault. -/
def loadOrDefault (reader : Reader) (file : SettingsFile) : Loaded :=
  match file with
  | .absent => .missing
  | file =>
    match load reader file with
    | .ok s => .settings s
    | .error e => if e.isForgiven then .ignored e else .failed e

end Settings

end NaturalDeduction
