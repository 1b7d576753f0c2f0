/-!
# Blank characters

Which characters count as white space, and how it is cut from both ends of a text. Two classes are
in use: every blank of the character standard, and the narrower class in which numerals may be
wrapped. The narrow class leaves out the four information separators.
-/

namespace NaturalDeduction.Text

/-- The code points of the blanks beyond ASCII, as inclusive ranges. -/
def wideBlankRanges : List (Nat × Nat) :=
  [(0x85, 0x85), (0xa0, 0xa0), (0x1680, 0x1680), (0x2000, 0x200a), (0x2028, 0x2029),
   (0x202f, 0x202f), (0x205f, 0x205f), (0x3000, 0x3000)]

/-- A blank beyond ASCII. -/
def isWideBlank (c : Char) : Bool :=
  wideBlankRanges.any fun (first, last) => first ≤ c.toNat && c.toNat ≤ last

/-- A blank around a numeral: tab to carriage return, the space, and the blanks beyond ASCII. -/
def isNumeralBlank (c : Char) : Bool :=
  (0x09 ≤ c.toNat && c.toNat ≤ 0x0d) || c == ' ' || isWideBlank c

/-- A blank: a blank around numerals, or one of the four information separators. -/
def isBlank (c : Char) : Bool :=
  isNumeralBlank c || (0x1c ≤ c.toNat && c.toNat ≤ 0x1f)

/-- What is left of a text when the characters of a class are cut from both its ends. -/
def trim (cut : Char → Bool) (s : List Char) : List Char :=
  ((s.dropWhile cut).reverse.dropWhile cut).reverse

example : trim isBlank " \tmodus ponens\n".toList = "modus ponens".toList := by decide

end NaturalDeduction.Text
