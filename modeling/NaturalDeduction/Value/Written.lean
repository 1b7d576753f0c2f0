import NaturalDeduction.Number.Numeral
import NaturalDeduction.Number.Shortest
import NaturalDeduction.Text.Quoted
import NaturalDeduction.Value.Basic

/-!
# Values in writing

The written form of a value, as messages quote it: numbers in decimal, texts between quotes, bytes
too after a letter, lists in square brackets, tuples in round ones, sets and mappings in braces,
with a comma and a space between the items. Dates and points in time are written as calls.

An integer of more digits than a numeral may have is not written out, and neither is a value that
holds one; `Value.isWritable` tells them from the others.
-/

namespace NaturalDeduction

/-- A date in writing. -/
def Date.written (d : Date) : String :=
  s!"datetime.date({d.year}, {d.month}, {d.day})"

namespace DateTime

/-- A number of minutes in writing, as days and seconds of which only the days may be negative. -/
def writtenMinutes (minutes : Int) : String :=
  let days := minutes / 1440
  let seconds := minutes % 1440 * 60
  let parts := [("days", days), ("seconds", seconds)].filter fun (_, n) => n != 0
  let shown := parts.map fun (name, n) => s!"{name}={n}"
  "datetime.timedelta(" ++ (if shown.isEmpty then "0" else ", ".intercalate shown) ++ ")"

/-- An offset in writing. -/
def writtenOffset (minutes : Int) : String :=
  if minutes = 0 then "datetime.timezone.utc"
  else "datetime.timezone(" ++ writtenMinutes minutes ++ ")"

/-- A point in time in writing. Seconds and what follows them are left out at the end where they are
zero. -/
def written (t : DateTime) : String :=
  let last := if t.microsecond ≠ 0 then [t.second, t.microsecond]
    else if t.second ≠ 0 then [t.second] else []
  let numbers := ([t.date.year, t.date.month, t.date.day, t.hour, t.minute] ++ last).map toString
  let offset := (t.offset?.map fun minutes => "tzinfo=" ++ writtenOffset minutes).toList
  "datetime.datetime(" ++ ", ".intercalate (numbers ++ offset) ++ ")"

end DateTime

namespace Value

/-- The items of a tuple, already written, between brackets; after a single one stands a comma. -/
def enclosedTuple (items : List String) : String :=
  "(" ++ ", ".intercalate items ++ (if items.length = 1 then ",)" else ")")

/-- The items of a set, already written; braces without anything in them would be a mapping. -/
def enclosedSet (items : List String) : String :=
  if items.isEmpty then "set()" else "\x7b" ++ ", ".intercalate items ++ "\x7d"

mutual

/-- A value in writing. -/
def written : Value → String
  | null => "None"
  | bool b => if b then "True" else "False"
  | int n => toString n
  | float x => x.written
  | text s => Text.quoted s
  | surrogateText codes => Text.quotedCodes codes
  | bytes content => Text.quotedBytes content
  | date d => d.written
  | dateTime t => t.written
  | list items => "[" ++ ", ".intercalate (writtenItems items) ++ "]"
  | tuple items => enclosedTuple (writtenItems items)
  | set items => enclosedSet (writtenItems items)
  | mapping entries => "\x7b" ++ ", ".intercalate (writtenEntries entries) ++ "\x7d"

/-- Several items in writing. -/
def writtenItems : List Value → List String
  | [] => []
  | v :: vs => written v :: writtenItems vs

/-- The entries of a mapping in writing. -/
def writtenEntries : List (Value × Value) → List String
  | [] => []
  | (k, v) :: rest => (written k ++ ": " ++ written v) :: writtenEntries rest

end

mutual

/-- Whether a value is written out: no integer in it has too many digits. -/
def isWritable : Value → Bool
  | int n => n.natAbs < Nat.pow 10 Numeral.maxDigits
  | list items | tuple items | set items => itemsWritable items
  | mapping entries => entriesWritable entries
  | _ => true

/-- Whether several items are all written out. -/
def itemsWritable : List Value → Bool
  | [] => true
  | v :: vs => isWritable v && itemsWritable vs

/-- Whether all entries of a mapping are written out. -/
def entriesWritable : List (Value × Value) → Bool
  | [] => true
  | (k, v) :: rest => isWritable k && isWritable v && entriesWritable rest

end

end Value

end NaturalDeduction
