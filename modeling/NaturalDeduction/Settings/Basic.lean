import NaturalDeduction.Rule.Catalogue

/-!
# Settings

How many suggestions are handed out, whether premises of the wrong shape are reported loudly, and
which rules the menu hides. They are read from a document with three sections: `autofill`,
`logging` and `catalogue`. What is missing or null has its default.

A vacant value (null, false, zero, or anything empty) in place of the document, of a section or of
the hidden rules counts as missing. Anything else of the wrong kind is refused, and of several
faults the first is reported: sections before entries, and both in the order above. A negative cap
and a flag that is no truth value are written out when they are refused; one that is not writable is
refused for that instead. An unknown hidden rule is handed on as it is and not written out. -/

namespace NaturalDeduction

/-- The settings of a verifier. -/
structure Settings where
  maxSuggestions : Int := 32
  logRejections : Bool := true
  hiddenRules : List RuleId := []
  deriving DecidableEq

/-- The classes that faults of loading fall into. A caller that forgives some faults goes by their
class. -/
inductive FaultClass
  /-- There is no file to read. -/
  | system
  /-- The text breaks the rules of its format. -/
  | format
  /-- A value is of a kind that nothing can be made of. -/
  | type
  /-- A value is not what it has to be. -/
  | value
  /-- A number is beyond all bounds. -/
  | overflow
  /-- A rule is not known. -/
  | unknownRule
  /-- Any other class, by its name. -/
  | other (name : String)
  deriving DecidableEq, Repr

/-- Why a value does not describe settings. -/
inductive SettingsError
  | documentKind (kind : Value.Kind)
  | sectionKind (name : String) (kind : Value.Kind)
  /-- The cap is a text that writes no integer. -/
  | capText (given : Value)
  | capTooLong (digits : Nat)
  | capKind (kind : Value.Kind)
  | capNotANumber
  | capInfinite
  | capNegative (cap : Int)
  | flag (given : Value)
  | hiddenKind (kind : Value.Kind)
  | unknownRule (given : Value)
  /-- The value at fault is not writable. -/
  | unwritable

namespace SettingsError

/-- A refusal in words. -/
def message : SettingsError → String
  | documentKind kind => s!"verifier config must be a mapping, got {kind.name}"
  | sectionKind name kind => s!"{name} must be a mapping, got {kind.name}"
  | capText given =>
    let shown := String.ofList (given.written.toList.take 200)
    s!"invalid literal for int() with base 10: {shown}"
  | capTooLong digits => tooManyDigits digits
  | capKind kind =>
    "int() argument must be a string, a bytes-like object or a real number, not '" ++
      kind.qualifiedName ++ "'"
  | capNotANumber => "cannot convert float NaN to integer"
  | capInfinite => "cannot convert float infinity to integer"
  | capNegative cap => s!"autofill.max_suggestions must be >= 0, got {cap}"
  | flag given => s!"logging.log_rejections must be true or false, got {given.written}"
  | hiddenKind kind => "'" ++ kind.qualifiedName ++ "' object is not iterable"
  | unknownRule given => RuleRef.unknownMessage given
  | unwritable => beyondLimit ""
where
  /-- The words for a numeral that is too long. -/
  tooManyDigits (digits : Nat) : String := beyondLimit s!": value has {digits} digits"
  /-- The words for a number that is beyond the limit of numerals, with a remark on it. -/
  beyondLimit (remark : String) : String :=
    s!"Exceeds the limit ({Numeral.maxDigits} digits) for integer string conversion{remark}; " ++
      "use sys.set_int_max_str_digits() to increase the limit"

/-- The class of a refusal. -/
def faultClass : SettingsError → FaultClass
  | documentKind _ | sectionKind _ _ | capText _ | capTooLong _ | capNotANumber | capNegative _
  | flag _ | unwritable => .value
  | capKind _ | hiddenKind _ => .type
  | capInfinite => .overflow
  | unknownRule _ => .unknownRule

/-- A fault whose report writes out a value, or the one that takes its place. -/
def naming (given : Value) (fault : SettingsError) : SettingsError :=
  if given.isWritable then fault else unwritable

end SettingsError

namespace Settings

/-- The entries of a section; a section that is missing or vacant has none. -/
def sectionEntries (name : String) (document : List (Value × Value)) :
    Except SettingsError (List (Value × Value)) :=
  match Value.get? name document with
  | none => .ok []
  | some v =>
    if v.isVacant then .ok []
    else match v with
      | .mapping entries => .ok entries
      | v => .error (.sectionKind name v.kind)

/-- The integer that a value is taken for: numbers lose their fraction, truth values count as one
and zero, texts are read. -/
def integerOf : Value → Except SettingsError Int
  | .bool b => .ok (if b then 1 else 0)
  | .int n => .ok n
  | .float .nan => .error .capNotANumber
  | .float (.infinite _) => .error .capInfinite
  | .float (.finite negative m e) => .ok (Binary64.truncate negative m e)
  | .text s => ofText (.text s) s
  | .surrogateText codes => ofText (.surrogateText codes) (String.ofList (codes.map legible))
  | .bytes content =>
    ofText (.bytes content) (String.ofList (content.map fun b => legibleByte b.toNat))
  | v => .error (.capKind v.kind)
where
  /-- The integer that a text writes, read as this string. -/
  ofText (given : Value) (s : String) : Except SettingsError Int :=
    match Numeral.read s with
    | .ok n => .ok n
    | .error .notANumeral => .error (.capText given)
    | .error (.tooManyDigits count) => .error (.capTooLong count)
  /-- The character of a code point; a surrogate counts as some character that no numeral has. -/
  legible (n : Nat) : Char := if n.isValidChar then Char.ofNat n else '\uFFFD'
  /-- The character of a byte; one beyond ASCII counts as some character that no numeral has. -/
  legibleByte (n : Nat) : Char := if n < 0x80 then Char.ofNat n else '\uFFFD'

/-- The cap on suggestions. -/
def readCap : Option Value → Except SettingsError Int
  | none | some .null => .ok 32
  | some v => do
    let cap ← integerOf v
    if cap < 0 then .error (.naming (.int cap) (.capNegative cap)) else .ok cap

/-- Whether rejections are reported loudly. -/
def readFlag : Option Value → Except SettingsError Bool
  | none | some .null => .ok true
  | some (.bool b) => .ok b
  | some v => .error (.naming v (.flag v))

/-- What the hidden rules are named by: the items of a list, a tuple or a set, the keys of a
mapping, the single characters of a text, the single bytes as numbers. -/
def hiddenNames : Option Value → Except SettingsError (List Value)
  | none => .ok []
  | some v =>
    if v.isVacant then .ok []
    else match v with
      | .list items | .tuple items | .set items => .ok items
      | .mapping entries => .ok (entries.map Prod.fst)
      | .text s => .ok (s.toList.map fun c => .text (String.singleton c))
      | .surrogateText codes => .ok (codes.map fun n => Value.ofCodes [n])
      | .bytes content => .ok (content.map fun b => .int b.toNat)
      | v => .error (.hiddenKind v.kind)

/-- The rules that names stand for; the first unknown name is refused. -/
def resolveAll (names : List Value) : Except SettingsError (List RuleId) :=
  names.mapM fun v => match (RuleRef.given v).resolve? with
    | some id => .ok id
    | none => .error (.unknownRule v)

/-- The settings that the entries of a document describe. -/
def ofEntries (document : List (Value × Value)) : Except SettingsError Settings := do
  let autofill ← sectionEntries "autofill" document
  let logging ← sectionEntries "logging" document
  let menu ← sectionEntries "catalogue" document
  let maxSuggestions ← readCap (Value.get? "max_suggestions" autofill)
  let logRejections ← readFlag (Value.get? "log_rejections" logging)
  let hiddenRules ← resolveAll (← hiddenNames (Value.get? "hidden_rules" menu))
  .ok { maxSuggestions, logRejections, hiddenRules }

/-- The settings that a document describes. -/
def ofValue (v : Value) : Except SettingsError Settings :=
  if v.isVacant then ofEntries []
  else match v with
    | .mapping entries => ofEntries entries
    | v => .error (.documentKind v.kind)

end Settings

end NaturalDeduction
