/-!
# Reading UTF-8

Bytes are read as characters, or refused at the first sequence that is not well formed. A refusal
says where the sequence begins, how far it could have been the beginning of a character, and what is
wrong after that: the first byte begins nothing, a later byte does not continue it, or the bytes end
too soon.
-/

namespace NaturalDeduction.Text

/-- What is wrong with a sequence of bytes. -/
inductive Utf8Fault
  | invalidStart
  | invalidContinuation
  | unexpectedEnd
  deriving DecidableEq, Repr

/-- A refused sequence: its first byte, the position of that byte, and how many bytes it covers. -/
structure Utf8Error where
  fault : Utf8Fault
  byte : UInt8
  position : Nat
  length : Nat
  deriving DecidableEq, Repr

/-- A fault in words. -/
def Utf8Fault.message : Utf8Fault → String
  | invalidStart => "invalid start byte"
  | invalidContinuation => "invalid continuation byte"
  | unexpectedEnd => "unexpected end of data"

/-- A refused sequence in words: a single byte is shown, of several only the positions. -/
def Utf8Error.message (e : Utf8Error) : String :=
  if e.length = 1 then
    let digits := Nat.toDigits 16 e.byte.toNat
    let padded := String.ofList (List.replicate (2 - digits.length) '0' ++ digits)
    s!"'utf-8' codec can't decode byte 0x{padded} in position {e.position}: {e.fault.message}"
  else
    let last := e.position + e.length - 1
    s!"'utf-8' codec can't decode bytes in position {e.position}-{last}: {e.fault.message}"

/-- How many bytes follow the first byte of a character, the bits that the first byte contributes,
and the range of the second byte; `none` if no character begins with the byte. -/
def utf8Lead? (b : UInt8) : Option (Nat × Nat × UInt8 × UInt8) :=
  if b < 0x80 then some (0, b.toNat, 0x80, 0xbf)
  else if b < 0xc2 then none
  else if b < 0xe0 then some (1, b.toNat % 0x20, 0x80, 0xbf)
  else if b = 0xe0 then some (2, 0, 0xa0, 0xbf)
  else if b = 0xed then some (2, 0xd, 0x80, 0x9f)
  else if b < 0xf0 then some (2, b.toNat % 0x10, 0x80, 0xbf)
  else if b = 0xf0 then some (3, 0, 0x90, 0xbf)
  else if b < 0xf4 then some (3, b.toNat % 0x08, 0x80, 0xbf)
  else if b = 0xf4 then some (3, 4, 0x80, 0x8f)
  else none

/-- Reads continuation bytes: `wanted` more, the next one between `low` and `high`. Answers the code
point, or the fault and the number of bytes that were still in order. -/
def utf8Tail (bits : Nat) : Nat → UInt8 → UInt8 → List UInt8 → Nat →
    Except (Utf8Fault × Nat) Nat
  | 0, _, _, _, _ => .ok bits
  | _ + 1, _, _, [], done => .error (.unexpectedEnd, done)
  | wanted + 1, low, high, b :: bs, done =>
    if low ≤ b ∧ b ≤ high then
      utf8Tail (bits * 0x40 + b.toNat % 0x40) wanted 0x80 0xbf bs (done + 1)
    else .error (.invalidContinuation, done)

/-- Reads bytes from a position on. The first argument counts the bytes that belong to a character
already read. -/
def decodeFrom : Nat → Nat → List UInt8 → Except Utf8Error (List Char)
  | _, _, [] => .ok []
  | skip + 1, position, _ :: bs => decodeFrom skip (position + 1) bs
  | 0, position, b :: bs =>
    match utf8Lead? b with
    | none => .error ⟨.invalidStart, b, position, 1⟩
    | some (wanted, bits, low, high) =>
      match utf8Tail bits wanted low high bs 1 with
      | .error (fault, length) => .error ⟨fault, b, position, length⟩
      | .ok code => (decodeFrom wanted (position + 1) bs).map (Char.ofNat code :: ·)

/-- The characters that bytes write in UTF-8. -/
def decodeUtf8 (bytes : List UInt8) : Except Utf8Error (List Char) := decodeFrom 0 0 bytes

/-- The same text with every line ended by a line feed alone. -/
def unifyLineEnds : List Char → List Char
  | '\r' :: '\n' :: rest => '\n' :: unifyLineEnds rest
  | '\r' :: rest => '\n' :: unifyLineEnds rest
  | c :: rest => c :: unifyLineEnds rest
  | [] => []

example : decodeUtf8 [0x41, 0xc3, 0xa9] = .ok ['A', 'é'] := rfl
example : decodeUtf8 [0xe2, 0x82] = .error ⟨.unexpectedEnd, 0xe2, 0, 2⟩ := rfl
example : decodeUtf8 [0xf4, 0x90, 0x80, 0x80] = .error ⟨.invalidContinuation, 0xf4, 0, 1⟩ := rfl

end NaturalDeduction.Text
