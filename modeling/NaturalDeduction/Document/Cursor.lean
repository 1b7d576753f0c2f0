/-!
# Reading positions

A cursor is the unread rest of a text together with the line and the column it begins at. Lines end
at a line feed, a carriage return, the next line control, and the line and paragraph separators. A
byte order mark takes up no column.
-/

namespace NaturalDeduction.Document

/-- A line break. -/
def isBreak (c : Char) : Bool :=
  c == '\n' || c == '\r' || c == '\u0085' || c == '\u2028' || c == '\u2029'

/-- A space or a tab. -/
def isSpace (c : Char) : Bool := c == ' ' || c == '\t'

/-- Whether nothing follows, or a space, a tab or a line break. -/
def endsWord (next : Option Char) : Bool := next.all fun c => isSpace c || isBreak c

/-- The unread rest of a text, with its position. -/
structure Cursor where
  rest : List Char
  index : Nat := 0
  line : Nat := 0
  column : Nat := 0

namespace Cursor

/-- The character that is `k` places ahead; `none` beyond the end. -/
def peek (c : Cursor) (k : Nat := 0) : Option Char := c.rest[k]?

/-- The cursor after the next character. -/
def next (c : Cursor) : Cursor :=
  match c.rest with
  | [] => c
  | a :: rest =>
    if isBreak a && !(a == '\r' && rest.head? == some '\n') then
      { rest, index := c.index + 1, line := c.line + 1, column := 0 }
    else if a == '\uFEFF' then { c with rest, index := c.index + 1 }
    else { c with rest, index := c.index + 1, column := c.column + 1 }

/-- The cursor after the next `n` characters. -/
def skip : Nat → Cursor → Cursor
  | 0, c => c
  | n + 1, c => skip n c.next

/-- The longest run of characters of a class, and the cursor after it. -/
def span (p : Char → Bool) (c : Cursor) : List Char × Cursor :=
  let run := c.rest.takeWhile p
  (run, c.skip run.length)

/-- The line break at the cursor, if there is one, and the cursor after it. Only the two separators
are kept as they are; every other break counts as a line feed. -/
def lineBreak? (c : Cursor) : Option (Char × Cursor) :=
  match c.rest with
  | '\r' :: '\n' :: _ => some ('\n', c.skip 2)
  | a :: _ =>
    if isBreak a then some (if a == '\u2028' || a == '\u2029' then a else '\n', c.next) else none
  | [] => none

/-- Whether a line with three dashes or three dots, alone or before a blank, begins here. -/
def atSeparator (c : Cursor) : Bool :=
  let mark := c.rest.take 3
  (mark == ['-', '-', '-'] || mark == ['.', '.', '.']) && endsWord (c.peek 3)

end Cursor

end NaturalDeduction.Document
