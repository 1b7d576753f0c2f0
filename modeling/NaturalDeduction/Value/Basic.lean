import NaturalDeduction.Number.Binary64

/-!
# Values of a document

What a settings document holds, and what may be given where the name of a rule is expected: null,
truth values, numbers, texts, bytes, dates, points in time, lists, tuples, sets, and mappings from
values to values. A mapping keeps its entries in the order in which their keys were first written,
and a set its items in the order in which they are gone through.

Two keys are one when they are equal as values, and numbers are compared by value across their
kinds: `1`, `1.0` and `true` are the same key. Points in time with an offset are compared by the
instant, whatever their offsets.

A text may hold surrogates, code points that no character has. Such a text is kept as a list of code
points, beside the texts that are strings; `Value.ofCodes` chooses between the two.
-/

namespace NaturalDeduction

/-- A day of the calendar. -/
structure Date where
  year : Nat
  month : Nat
  day : Nat
  deriving DecidableEq, Repr

namespace Date

/-- Whether a year has a twenty-ninth of February. -/
def isLeap (year : Nat) : Bool := year % 4 == 0 && (year % 100 != 0 || year % 400 == 0)

/-- The number of days of a month. -/
def daysIn (year month : Nat) : Nat :=
  if month = 2 then if isLeap year then 29 else 28
  else if month ∈ [4, 6, 9, 11] then 30
  else 31

/-- The number of days from the beginning of the calendar, the first of January of year one. -/
def number (d : Date) : Nat :=
  let years := d.year - 1
  let months := (List.range (d.month - 1)).map fun m => daysIn d.year (m + 1)
  365 * years + years / 4 - years / 100 + years / 400 + months.foldl (· + ·) 0 + (d.day - 1)

end Date

/-- A point in time: a day, the time of the day, and how many minutes that is ahead of universal
time, if it is known. -/
structure DateTime where
  date : Date
  hour : Nat := 0
  minute : Nat := 0
  second : Nat := 0
  microsecond : Nat := 0
  offset? : Option Int := none
  deriving DecidableEq, Repr

namespace DateTime

/-- The microseconds from the beginning of the calendar, by the clock that shows the time. -/
def microseconds (t : DateTime) : Nat :=
  ((((t.date.number * 24 + t.hour) * 60 + t.minute) * 60) + t.second) * 1000000 + t.microsecond

/-- The instant in universal time, where the offset is known. -/
def instant? (t : DateTime) : Option Int :=
  t.offset?.map fun offset => (t.microseconds : Int) - offset * 60000000

/-- Whether two points in time are the same. One with an offset is never the same as one without. -/
def isSame (t t' : DateTime) : Bool :=
  t.instant? == t'.instant? && (t.offset?.isSome || t == t')

end DateTime

/-- A value of a document. -/
inductive Value
  | null
  | bool (b : Bool)
  | int (n : Int)
  | float (x : Binary64)
  | text (s : String)
  /-- A text by its code points, one of which is a surrogate. -/
  | surrogateText (codes : List Nat)
  | bytes (content : List UInt8)
  | date (d : Date)
  | dateTime (t : DateTime)
  | list (items : List Value)
  | tuple (items : List Value)
  | set (items : List Value)
  | mapping (entries : List (Value × Value))

namespace Value

instance : Inhabited Value := ⟨.null⟩

/-- The text that has these code points. -/
def ofCodes (codes : List Nat) : Value :=
  if codes.all fun n => n.isValidChar then .text (String.ofList (codes.map Char.ofNat))
  else .surrogateText codes

/-- The kinds of value. -/
inductive Kind
  | null
  | bool
  | int
  | float
  | text
  | bytes
  | date
  | dateTime
  | list
  | tuple
  | set
  | mapping
  deriving DecidableEq, Repr

/-- The word by which messages name a kind. -/
def Kind.name : Kind → String
  | null => "NoneType"
  | bool => "bool"
  | int => "int"
  | float => "float"
  | text => "str"
  | bytes => "bytes"
  | date => "date"
  | dateTime => "datetime"
  | list => "list"
  | tuple => "tuple"
  | set => "set"
  | mapping => "dict"

/-- The full name of a kind, which for dates and points in time is the longer one. -/
def Kind.qualifiedName : Kind → String
  | date => "datetime.date"
  | dateTime => "datetime.datetime"
  | kind => kind.name

/-- The kind of a value. -/
def kind : Value → Kind
  | null => .null
  | bool _ => .bool
  | int _ => .int
  | float _ => .float
  | text _ | surrogateText _ => .text
  | bytes _ => .bytes
  | date _ => .date
  | dateTime _ => .dateTime
  | list _ => .list
  | tuple _ => .tuple
  | set _ => .set
  | mapping _ => .mapping

/-- A value is vacant when it is null, false, a zero, or empty: a text, bytes, a list, a tuple, a
set or a mapping without anything in it. -/
def isVacant : Value → Bool
  | null => true
  | bool b => !b
  | int n => n == 0
  | float x => x.isZero
  | text s => s.isEmpty
  | surrogateText _ | date _ | dateTime _ => false
  | bytes content => content.isEmpty
  | list items | tuple items | set items => items.isEmpty
  | mapping entries => entries.isEmpty

/-- The integer that a number or truth value is exactly equal to. -/
def toInteger? : Value → Option Int
  | bool b => some (if b then 1 else 0)
  | int n => some n
  | float x => x.toInteger?
  | _ => none

/-- Whether two values are the same key of a mapping. Lists, sets and mappings are never keys, and a
tuple is never met but as the item of a list. -/
def sameKey (k k' : Value) : Bool :=
  match k.toInteger?, k'.toInteger? with
  | some n, some n' => n == n'
  | _, _ =>
    match k, k' with
    | null, null => true
    | float x, float x' => x == x'
    | text s, text s' => s == s'
    | surrogateText cs, surrogateText cs' => cs == cs'
    | bytes bs, bytes bs' => bs == bs'
    | date d, date d' => d == d'
    | dateTime t, dateTime t' => t.isSame t'
    | _, _ => false

/-- Entries with one more at the end; an entry that has the key already keeps its place and its key,
and takes the value. -/
def insert (k v : Value) : List (Value × Value) → List (Value × Value)
  | [] => [(k, v)]
  | (k', v') :: rest => if sameKey k' k then (k', v) :: rest else (k', v') :: insert k v rest

/-- The value that a text key has among the entries. -/
def get? (key : String) (entries : List (Value × Value)) : Option Value :=
  (entries.find? fun (k, _) => sameKey k (.text key)).map Prod.snd

end Value

end NaturalDeduction
