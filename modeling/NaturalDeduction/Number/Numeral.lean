import NaturalDeduction.Text.Blank
import NaturalDeduction.Text.Digit

/-!
# Integers written in text

An integer may stand between blanks, carry a sign, have leading zeros, use the digits of any script,
and set single underscores between digits. A numeral of more than 4300 digits is refused.
-/

namespace NaturalDeduction.Numeral

/-- Why a text is not read as an integer. -/
inductive Refusal
  | notANumeral
  | tooManyDigits (count : Nat)
  deriving DecidableEq, Repr

/-- The most digits that a decimal numeral may have. -/
def maxDigits : Nat := 4300

/-- The number that decimal digits name, the first digit counting most. -/
def ofDigits (digits : List Nat) : Nat :=
  digits.foldl (fun n d => 10 * n + d) 0

/-- The parts of a list between the occurrences of a separator. -/
def splitAt (separator : Char) : List Char → List (List Char)
  | [] => [[]]
  | c :: cs =>
    if c = separator then [] :: splitAt separator cs
    else match splitAt separator cs with
      | [] => [[c]]
      | part :: parts => (c :: part) :: parts

/-- A numeral without its sign: digits with single underscores between them, then only blanks. -/
def readDigits (s : List Char) : Except Refusal Nat :=
  let isPart (c : Char) : Bool := c == '_' || (Text.digitValue? c).isSome
  let numeral := s.takeWhile isPart
  let digits := numeral.filterMap Text.digitValue?
  if (splitAt '_' numeral).any List.isEmpty then .error .notANumeral
  else if maxDigits < digits.length then .error (.tooManyDigits digits.length)
  else if (s.dropWhile isPart).all Text.isNumeralBlank then .ok (ofDigits digits)
  else .error .notANumeral

/-- The integer that a text writes. -/
def read (s : String) : Except Refusal Int :=
  match s.toList.dropWhile Text.isNumeralBlank with
  | '-' :: digits => (readDigits digits).map fun n => -(n : Int)
  | '+' :: digits => (readDigits digits).map Int.ofNat
  | digits => (readDigits digits).map Int.ofNat

end NaturalDeduction.Numeral
