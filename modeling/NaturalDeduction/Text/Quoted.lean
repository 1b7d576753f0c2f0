import NaturalDeduction.Text.Visible

/-!
# Quoted text

Text is quoted so that a reader sees every character of it. It stands between single quotes, or
between double quotes when it holds a single quote and no double one. Inside, the surrounding quote
and the backslash are escaped with a backslash, the three usual line and tab characters have short
escapes, and every other hidden character is written by its code point in hexadecimal, with two,
four or eight digits. All other characters stand for themselves.

Bytes are quoted like a text of as many characters, after the letter b, and only those below 128
stand for characters.
-/

namespace NaturalDeduction.Text

/-- A number in lower case hexadecimal, padded with zeros to a least width. -/
def hexadecimal (width n : Nat) : List Char :=
  let digits := Nat.toDigits 16 n
  List.replicate (width - digits.length) '0' ++ digits

/-- The quote that surrounds a text. -/
def quoteMark (s : List Char) : Char :=
  if s.contains '\'' && !s.contains '"' then '"' else '\''

/-- A character by its code point: two hexadecimal digits, or four, or eight. -/
def escapeCodePoint (n : Nat) : List Char :=
  if n ≤ 0xff then '\\' :: 'x' :: hexadecimal 2 n
  else if n ≤ 0xffff then '\\' :: 'u' :: hexadecimal 4 n
  else '\\' :: 'U' :: hexadecimal 8 n

/-- How one character is written between a pair of quotes. -/
def escape (mark c : Char) : List Char :=
  if c = mark ∨ c = '\\' then ['\\', c]
  else if c = '\t' then ['\\', 't']
  else if c = '\n' then ['\\', 'n']
  else if c = '\r' then ['\\', 'r']
  else if isVisible c then [c]
  else escapeCodePoint c.toNat

/-- How one code point is written between a pair of quotes. A surrogate has no visible form. -/
def escapeCode (mark : Char) (n : Nat) : List Char :=
  if n.isValidChar then escape mark (Char.ofNat n) else escapeCodePoint n

/-- How one byte is written between a pair of quotes. -/
def escapeByte (mark : Char) (b : UInt8) : List Char :=
  if b < 0x80 then escape mark (Char.ofNat b.toNat) else escapeCodePoint b.toNat

/-- A text between quotes. -/
def quoted (s : String) : String :=
  let mark := quoteMark s.toList
  String.ofList (mark :: s.toList.flatMap (escape mark) ++ [mark])

/-- A text between quotes, given by its code points. -/
def quotedCodes (codes : List Nat) : String :=
  let mark := quoteMark (codes.map Char.ofNat)
  String.ofList (mark :: codes.flatMap (escapeCode mark) ++ [mark])

/-- Bytes between quotes. -/
def quotedBytes (content : List UInt8) : String :=
  let mark := quoteMark (content.map fun b => Char.ofNat b.toNat)
  String.ofList ('b' :: mark :: content.flatMap (escapeByte mark) ++ [mark])

end NaturalDeduction.Text
