import NaturalDeduction.Document.Cursor
import NaturalDeduction.Document.Token
import NaturalDeduction.Number.Numeral
import NaturalDeduction.Value.Basic

/-!
# What plain scalars mean

A scalar without quotes is null, a truth value, a number, a date or a point in time if it is spelt
like one, and a text otherwise.

Integers are written in base two, eight, ten, sixteen or sixty, and underscores among their digits
do not count; a leading zero means base eight, so `09` is no number. Numbers with a fraction need a
point, and the exponent, if there is one, a sign; they too may be written in base sixty.

A date alone has all its digits. With a time after it the month, the day and the hour may have one
digit only, and a fraction of the second and an offset may follow.
-/

namespace NaturalDeduction.Document

/-- A day of the calendar, if there is such a day. -/
def date? (year month day : Nat) : Except DocumentError Date :=
  if year = 0 then .error .yearOutOfRange
  else if month = 0 ∨ 12 < month then .error .monthOutOfRange
  else if day = 0 ∨ Date.daysIn year month < day then .error .dayOutOfRange
  else .ok ⟨year, month, day⟩

/-- A point in time, if there is such a day and such a time of the day. -/
def dateTime? (year month day hour minute second microsecond : Nat) (offset? : Option Int) :
    Except DocumentError DateTime := do
  let date ← date? year month day
  if 23 < hour then .error .hourOutOfRange
  else if 59 < minute then .error .minuteOutOfRange
  else if 59 < second then .error .secondOutOfRange
  else .ok { date, hour, minute, second, microsecond, offset? }

namespace Scalar

/-- The spellings of the truth values. -/
def truthValues : List (String × Bool) :=
  [("yes", true), ("Yes", true), ("YES", true), ("no", false), ("No", false), ("NO", false),
   ("true", true), ("True", true), ("TRUE", true), ("false", false), ("False", false),
   ("FALSE", false), ("on", true), ("On", true), ("ON", true), ("off", false), ("Off", false),
   ("OFF", false)]

/-- The spellings of null. -/
def nulls : List String := ["", "~", "null", "Null", "NULL"]

/-- A decimal digit. -/
def isDigit (c : Char) : Bool := '0' ≤ c && c ≤ '9'

/-- A decimal digit or an underscore. -/
def isDigitOrBar (c : Char) : Bool := isDigit c || c == '_'

/-- The text without its underscores. -/
def dropBars (s : List Char) : List Char := s.filter (· != '_')

/-- The sign at the beginning of a text, and the text after it. -/
def splitSign : List Char → Bool × List Char
  | '-' :: s => (true, s)
  | '+' :: s => (false, s)
  | s => (false, s)

/-- The number that digits write in a base up to sixteen. -/
def ofDigits (base : Nat) (s : List Char) : Nat :=
  s.foldl (fun n c => base * n + digit c) 0
where
  /-- The value of a digit. -/
  digit (c : Char) : Nat :=
    if isDigit c then c.toNat - 0x30 else if c ≤ 'F' then c.toNat - 0x37 else c.toNat - 0x57

/-- Whether a text is a part of a number in base sixty after the first: one digit, or two of which
the first is at most five. -/
def isSixtieth : List Char → Bool
  | [a] => isDigit a
  | [a, b] => '0' ≤ a && a ≤ '5' && isDigit b
  | _ => false

/-! ## Integers -/

/-- How an integer is spelt: its base, and its digits without underscores, or its parts in base
sixty. -/
inductive IntegerForm
  | digits (base : Nat) (s : List Char)
  | sixtieths (parts : List (List Char))

/-- The spelling of an integer, from after its sign. -/
def integerForm? (s : List Char) : Option IntegerForm :=
  match s with
  | '0' :: 'b' :: ds =>
    if !ds.isEmpty && ds.all (fun c => c == '0' || c == '1' || c == '_') then
      some (.digits 2 (dropBars ds))
    else none
  | '0' :: 'x' :: ds =>
    if !ds.isEmpty && ds.all isHexOrBar then some (.digits 16 (dropBars ds)) else none
  | '0' :: ds =>
    if ds.all (fun c => ('0' ≤ c && c ≤ '7') || c == '_') then some (.digits 8 ('0' :: dropBars ds))
    else none
  | c :: _ =>
    if isDigit c then
      match Numeral.splitAt ':' s with
      | [ds] => if ds.all isDigitOrBar then some (.digits 10 (dropBars ds)) else none
      | first :: rest =>
        if first.all isDigitOrBar && rest.all isSixtieth then
          some (.sixtieths (dropBars first :: rest))
        else none
      | [] => none
    else none
  | [] => none
where
  /-- A hexadecimal digit or an underscore. -/
  isHexOrBar (c : Char) : Bool :=
    isDigitOrBar c || ('a' ≤ c && c ≤ 'f') || ('A' ≤ c && c ≤ 'F')

/-- The number that decimal digits write, unless they are too many. -/
def decimal (s : List Char) : Except DocumentError Nat :=
  if Numeral.maxDigits < s.length then .error (.tooManyDigits s.length) else .ok (ofDigits 10 s)

/-- The number that a spelling means. -/
def IntegerForm.magnitude : IntegerForm → Except DocumentError Nat
  | digits base s =>
    if s.isEmpty then .error (.noDigits base)
    else if base = 10 then decimal s
    else .ok (ofDigits base s)
  | sixtieths parts => do
    let ns ← parts.mapM decimal
    .ok (ns.foldl (fun n k => 60 * n + k) 0)

/-- The integer that a text spells. -/
def integer? (s : List Char) : Option (Except DocumentError Int) :=
  let (negative, digits) := splitSign s
  (integerForm? digits).map fun form =>
    form.magnitude.map fun n => if negative then -(n : Int) else n

/-! ## Numbers with a fraction -/

/-- An exponent with its letter and its sign, or nothing. -/
def exponent? : List Char → Option Int
  | [] => some 0
  | e :: sign :: ds =>
    if (e == 'e' || e == 'E') && !ds.isEmpty && ds.all isDigit then
      if sign == '+' then some (ofDigits 10 ds)
      else if sign == '-' then some (-(ofDigits 10 ds : Int))
      else none
    else none
  | _ => none

/-- The number nearest to digits with a point after the whole ones, and an exponent. -/
def nearest (whole fraction : List Char) (exponent : Int) : Binary64 :=
  let digits := dropBars fraction
  Binary64.ofDecimal false (ofDigits 10 (dropBars whole ++ digits)) (exponent - digits.length)

/-- The magnitude of a number with a point that stands after at least one digit, or, where `bare`
allows it, before one. -/
def pointed? (bare : Bool) (s : List Char) : Option Binary64 :=
  let whole := s.takeWhile isDigitOrBar
  match s.dropWhile isDigitOrBar with
  | '.' :: rest =>
    let fraction := rest.takeWhile isDigitOrBar
    let begins :=
      if whole.isEmpty then bare && fraction.head?.any isDigit else whole.head?.any isDigit
    if begins then (exponent? (rest.dropWhile isDigitOrBar)).map (nearest whole fraction) else none
  | _ => none

/-- What a one counts at the place after which `k` places follow, in base sixty. -/
def weight (k : Nat) : Except DocumentError Binary64 :=
  match Binary64.ofQuotient false (Nat.pow 60 k) 1 with
  | .finite negative m e => .ok (.finite negative m e)
  | _ => .error .weightTooLarge

/-- The sum of the parts of a number in base sixty, the last one first, each times its weight.
Weights, products and sums are rounded one by one. -/
def weightedSum (parts : List Binary64) : Except DocumentError Binary64 :=
  parts.zipIdx.foldlM
    (fun sum (part, k) => (weight k).map fun w => sum.add (part.mul w)) (Binary64.zero false)

/-- The magnitude of a number in base sixty with a point in its last part. -/
def pointedSixtieths? (s : List Char) : Option (Except DocumentError Binary64) :=
  match Numeral.splitAt ':' s with
  | first :: second :: rest =>
    let middle := (second :: rest).dropLast
    let last := ((second :: rest).getLast?).getD []
    let whole := last.takeWhile (· != '.')
    let fraction := (last.dropWhile (· != '.')).drop 1
    if first.head?.any isDigit && first.all isDigitOrBar && middle.all isSixtieth &&
        isSixtieth whole && last.contains '.' && fraction.all isDigitOrBar then
      let parts := (first :: middle).map (nearest · [] 0) ++ [nearest whole fraction 0]
      some (weightedSum parts.reverse)
    else none
  | _ => none

/-- The number that a text with a point spells. -/
def fractional? (s : List Char) : Option (Except DocumentError Binary64) :=
  if s ∈ [".nan".toList, ".NaN".toList, ".NAN".toList] then some (.ok .nan)
  else
    let (negative, body) := splitSign s
    let signed := body.length < s.length
    if body ∈ [".inf".toList, ".Inf".toList, ".INF".toList] then some (.ok (.infinite negative))
    else
      let magnitude := ((pointed? (!signed) body).map .ok).orElse fun _ => pointedSixtieths? body
      magnitude.map fun x => x.map fun x => if negative then x.negate else x

/-! ## Dates and points in time -/

/-- The date that a text of four, two and two digits spells. -/
def dateValue? (s : List Char) : Option (Except DocumentError Date) :=
  match Numeral.splitAt '-' s with
  | [year, month, day] =>
    if year.length = 4 ∧ month.length = 2 ∧ day.length = 2 ∧ (year ++ month ++ day).all isDigit then
      some (date? (ofDigits 10 year) (ofDigits 10 month) (ofDigits 10 day))
    else none
  | _ => none

/-- The number that the digits at the beginning of a text spell, at least so many and at most so
many of them, and the text after them. -/
def number? (least most : Nat) (s : List Char) : Option (Nat × List Char) :=
  let digits := (s.take most).takeWhile isDigit
  if digits.length < least then none else some (ofDigits 10 digits, s.drop digits.length)

/-- The text after a character that it has to begin with. -/
def after? (mark : Char) (s : List Char) : Option (List Char) :=
  if s.head? = some mark then some s.tail else none

/-- The microseconds that the digits after a point spell. Digits beyond the sixth do not count. -/
def microseconds (digits : List Char) : Nat :=
  let counted := digits.take 6
  ofDigits 10 counted * Nat.pow 10 (6 - counted.length)

/-- The minutes that an offset spells, hours with or without minutes after a sign, or none at all
where nothing is left of the text. -/
def offset? (s : List Char) : Option (Option Int) :=
  match s with
  | [] => some none
  | ['Z'] => some (some 0)
  | sign :: rest =>
    if sign == '+' || sign == '-' then do
      let (hours, rest) ← number? 1 2 rest
      let minutes ← if rest.isEmpty then some 0 else do
        let (minutes, rest) ← number? 2 2 (← after? ':' rest)
        if rest.isEmpty then some minutes else none
      let total : Int := hours * 60 + minutes
      some (some (if sign == '-' then -total else total))
    else none

/-- The point in time that a text spells: a date, a letter T or blanks, and a time. -/
def dateTimeValue? (s : List Char) : Option (Except DocumentError DateTime) := do
  let (year, rest) ← number? 4 4 s
  let (month, rest) ← number? 1 2 (← after? '-' rest)
  let (day, rest) ← number? 1 2 (← after? '-' rest)
  let clock ←
    if rest.head?.any fun c => c == 'T' || c == 't' then some rest.tail
    else if rest.head?.any isSpace then some (rest.dropWhile isSpace)
    else none
  let (hour, rest) ← number? 1 2 clock
  let (minute, rest) ← number? 2 2 (← after? ':' rest)
  let (second, rest) ← number? 2 2 (← after? ':' rest)
  let pointed := rest.head? == some '.'
  let fraction := if pointed then rest.tail.takeWhile isDigit else []
  let rest := if pointed then rest.tail.dropWhile isDigit else rest
  -- Blanks may stand before an offset, but not at the end.
  let shift := rest.dropWhile isSpace
  let offset ← if shift.isEmpty && !rest.isEmpty then none else offset? shift
  some <|
    if offset.any fun minutes => 1440 ≤ minutes.natAbs then
      .error (.offsetOutOfRange (offset.getD 0))
    else dateTime? year month day hour minute second (microseconds fraction) offset

/-! ## All plain scalars -/

/-- The value of a plain scalar. -/
def value (s : List Char) : Except DocumentError Value :=
  let text := String.ofList s
  match truthValues.lookup text with
  | some b => .ok (.bool b)
  | none =>
    if text ∈ nulls then .ok .null
    else if text = "=" ∨ text = "<<" then .error .malformed
    else match fractional? s, integer? s, dateValue? s, dateTimeValue? s with
      | some x, _, _, _ => x.map .float
      | none, some n, _, _ => n.map .int
      | none, none, some d, _ => d.map .date
      | none, none, none, some t => t.map .dateTime
      | none, none, none, none => .ok (.text text)

end Scalar

end NaturalDeduction.Document
