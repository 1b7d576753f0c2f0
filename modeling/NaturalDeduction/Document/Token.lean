/-!
# Tokens of a settings document

A settings document is written in YAML 1.1. Of that format anchors, aliases, tags and directives are
not supported, and a document that has any of these is refused as such. Its tokens are the
indicators, the scalars, and four that no character stands for: the start of a block sequence or
block mapping, the end of either, which indentation decides, and a fault.

A fault is a token because a document is parsed as far as its tokens are certain: of a token that
does not fit in its place and a fault further on, the one that is met first is reported.
-/

namespace NaturalDeduction.Document

/-- Why a text is not read as a document. -/
inductive DocumentError
  /-- The text breaks the rules of the format. -/
  | malformed
  /-- The text uses a part of the format that is not supported. -/
  | unsupported
  /-- An escape names a code point beyond the last one. -/
  | noSuchCharacter
  /-- An escape names a number of more than 31 bits. -/
  | escapeTooLarge
  /-- A number with a base but no digits. -/
  | noDigits (base : Nat)
  /-- A decimal number with too many digits. -/
  | tooManyDigits (count : Nat)
  /-- A number in base sixty with a point, and so many parts that the weight of the first one is
  beyond the floating-point numbers. -/
  | weightTooLarge
  /-- A date whose year is zero. -/
  | yearOutOfRange
  /-- A date whose month is not one of the twelve. -/
  | monthOutOfRange
  /-- A date whose month has no such day. -/
  | dayOutOfRange
  /-- A time whose hour is not one of the twenty-four. -/
  | hourOutOfRange
  /-- A time whose minute is not one of the sixty. -/
  | minuteOutOfRange
  /-- A time whose second is not one of the sixty. -/
  | secondOutOfRange
  /-- A time that is a day or more, by so many minutes, away from universal time. -/
  | offsetOutOfRange (minutes : Int)
  deriving DecidableEq, Repr

/-- A token of a document. -/
inductive Token
  | documentStart
  | documentEnd
  | blockSequence
  | blockMapping
  | blockEnd
  | openSequence
  | closeSequence
  | openMapping
  | closeMapping
  /-- The dash before an entry of a block sequence. -/
  | entry
  /-- The comma between the entries of a flow collection. -/
  | comma
  | key
  | value
  /-- A scalar without quotes. -/
  | plain (s : List Char)
  /-- A scalar between quotes or in a block, by its code points. -/
  | text (codes : List Nat)
  /-- Nothing can be read from here on. -/
  | fault (why : DocumentError)
  deriving DecidableEq, Repr

end NaturalDeduction.Document
