import NaturalDeduction.Document.Cursor
import NaturalDeduction.Document.Token

/-!
# Scalars as they are written

The four ways of writing a scalar: plain, between single quotes, between double quotes with escapes,
and as an indented block of lines. Each function reads from the first character of the scalar and
answers its text with the cursor after it.

Where a scalar goes over several lines they are folded: a single line break becomes a space, and of
several the first is dropped. Blocks written with a bar keep their line breaks.

A scalar between quotes is answered as code points and not as characters, since an escape may name
a surrogate.

The loops carry a bound on their steps, which the public functions set to the length of the text:
every step reads at least one character.
-/

namespace NaturalDeduction.Document

/-! ## Folding -/

/-- Line breaks, with spaces and tabs around them, up to the next other character. Document
separators are refused. -/
def readBreaks : Nat → Cursor → Except DocumentError (List Char × Cursor)
  | 0, c => .ok ([], c)
  | bound + 1, c =>
    if c.atSeparator then .error .malformed
    else
      let (_, c) := c.span isSpace
      match c.lineBreak? with
      | none => .ok ([], c)
      | some (b, c) => (readBreaks bound c).map fun (bs, c) => (b :: bs, c)

/-- What a line break and the further breaks after it become. -/
def fold (first : Char) (more : List Char) : List Char :=
  if first != '\n' then first :: more
  else if more.isEmpty then [' ']
  else more

/-! ## Plain scalars -/

/-- A character that ends a plain scalar inside a flow collection. -/
def isFlowIndicator (c : Char) : Bool := c == ',' || c == '?' || isBracket c
where
  /-- A bracket or brace. -/
  isBracket (c : Char) : Bool := c == '[' || c == ']' || c == '\x7b' || c == '\x7d'

/-- Whether a colon before this text ends a plain scalar. -/
def colonEnds (inFlow : Bool) (after : List Char) : Bool :=
  endsWord after.head? ||
    (inFlow && after.head?.any fun c => c == ',' || isFlowIndicator.isBracket c)

/-- The longest beginning of a text that is one word of a plain scalar. -/
def plainWord (inFlow : Bool) : List Char → List Char
  | [] => []
  | c :: rest =>
    if isSpace c || isBreak c || (c == ':' && colonEnds inFlow rest) ||
        (inFlow && isFlowIndicator c) then []
    else c :: plainWord inFlow rest

/-- The breaks and spaces before the next word of a plain scalar; `none` before a separator. -/
def plainBreaks : Nat → Cursor → Option (List Char) × Cursor
  | 0, c => (some [], c)
  | bound + 1, c =>
    let (_, c) := c.span (· == ' ')
    match c.lineBreak? with
    | none => (some [], c)
    | some (b, c) =>
      if c.atSeparator then (none, c)
      else
        let (bs, c) := plainBreaks bound c
        (bs.map (b :: ·), c)

/-- What stands between two words of a plain scalar: the text it contributes, which is empty when
the scalar ends here, the cursor after it, and whether a line has ended. -/
def plainGap (c : Cursor) : List Char × Cursor × Bool :=
  let (spaces, c) := c.span (· == ' ')
  match c.lineBreak? with
  | none => (spaces, c, false)
  | some (b, c) =>
    if c.atSeparator then ([], c, true)
    else match plainBreaks c.rest.length c with
      | (some bs, c) => (fold b bs, c, true)
      | (none, c) => ([], c, true)

/-- The words of a plain scalar, each after its gap. -/
def plainWords (inFlow : Bool) (indent : Int) :
    Nat → List Char → Cursor → Bool → List Char × Cursor × Bool
  | 0, _, c, broken => ([], c, broken)
  | bound + 1, gap, c, broken =>
    let word := plainWord inFlow c.rest
    if word.isEmpty || c.peek == some '#' then ([], c, broken)
    else
      let (gap', after, broken) := plainGap (c.skip word.length)
      if gap'.isEmpty || after.peek == some '#' || (!inFlow && (after.column : Int) < indent) then
        (gap ++ word, after, broken)
      else
        let (rest, c, broken) := plainWords inFlow indent bound gap' after broken
        (gap ++ word ++ rest, c, broken)

/-- A plain scalar, whose continuation lines are indented at least this far: its text, the cursor
after it and the spaces that follow, and whether a line has ended after its last word. -/
def plainScalar (inFlow : Bool) (indent : Int) (c : Cursor) : List Char × Cursor × Bool :=
  plainWords inFlow indent (c.rest.length + 1) [] c false

/-! ## Quoted scalars -/

/-- The character that a one-letter escape stands for. -/
def shortEscape? : Char → Option Char
  | '0' => some '\x00'
  | 'a' => some '\x07'
  | 'b' => some '\x08'
  | 't' | '\t' => some '\t'
  | 'n' => some '\n'
  | 'v' => some '\x0b'
  | 'f' => some '\x0c'
  | 'r' => some '\r'
  | 'e' => some '\x1b'
  | ' ' => some ' '
  | '"' => some '"'
  | '\\' => some '\\'
  | '/' => some '/'
  | 'N' => some '\u0085'
  | '_' => some '\u00a0'
  | 'L' => some '\u2028'
  | 'P' => some '\u2029'
  | _ => none

/-- How many hexadecimal digits follow the letter of an escape. -/
def escapeWidth? : Char → Option Nat
  | 'x' => some 2
  | 'u' => some 4
  | 'U' => some 8
  | _ => none

/-- The value of a hexadecimal digit. -/
def hexDigit? (c : Char) : Option Nat :=
  if '0' ≤ c ∧ c ≤ '9' then some (c.toNat - 0x30)
  else if 'a' ≤ c ∧ c ≤ 'f' then some (c.toNat - 0x57)
  else if 'A' ≤ c ∧ c ≤ 'F' then some (c.toNat - 0x37)
  else none

/-- The code point that is written in this many hexadecimal digits. -/
def escapedCode (width : Nat) (c : Cursor) : Except DocumentError Nat :=
  match (c.rest.take width).mapM hexDigit? with
  | none => .error .malformed
  | some digits =>
    let code := digits.foldl (fun n d => 16 * n + d) 0
    if digits.length < width then .error .malformed
    else if Nat.pow 2 31 ≤ code then .error .escapeTooLarge
    else if 0x10ffff < code then .error .noSuchCharacter
    else .ok code

/-- The code points of a text. -/
def codePoints (text : List Char) : List Nat := text.map Char.toNat

/-- An escape, from the character after its backslash. -/
def escapeSequence (c : Cursor) : Except DocumentError (List Nat × Cursor) :=
  match c.peek with
  | none => .error .malformed
  | some a =>
    match shortEscape? a, escapeWidth? a, c.lineBreak? with
    | some b, _, _ => .ok ([b.toNat], c.next)
    | none, some width, _ => (escapedCode width c.next).map fun n => ([n], c.skip (width + 1))
    | none, none, some (_, c) =>
      (readBreaks c.rest.length c).map fun (bs, c) => (codePoints bs, c)
    | none, none, none => .error .malformed

/-- The rest of a scalar between quotes, from after the opening one. -/
def quotedRest (mark : Char) : Nat → Cursor → Except DocumentError (List Nat × Cursor)
  | 0, _ => .error .malformed
  | bound + 1, c =>
    match c.peek with
    | none => .error .malformed
    | some a =>
      if a == mark then
        if mark == '\'' && c.peek 1 == some '\'' then
          (quotedRest mark bound (c.skip 2)).map fun (s, c) => (mark.toNat :: s, c)
        else .ok ([], c.next)
      else if mark == '"' && a == '\\' then do
        let (s, c) ← escapeSequence c.next
        (quotedRest mark bound c).map fun (s', c) => (s ++ s', c)
      else if isSpace a || isBreak a then do
        let (spaces, c) := c.span isSpace
        let (gap, c) ← match c.lineBreak? with
          | none => if c.rest.isEmpty then .error .malformed else .ok (spaces, c)
          | some (b, c) => (readBreaks c.rest.length c).map fun (bs, c) => (fold b bs, c)
        (quotedRest mark bound c).map fun (s, c) => (codePoints gap ++ s, c)
      else (quotedRest mark bound c.next).map fun (s, c) => (a.toNat :: s, c)

/-- A scalar between quotes, from the opening one. -/
def quotedScalar (mark : Char) (c : Cursor) : Except DocumentError (List Nat × Cursor) :=
  quotedRest mark c.rest.length c.next

/-! ## Block scalars -/

/-- What becomes of the line breaks at the end of a block: one is kept, or none, or all. -/
inductive Chomping
  | clip
  | strip
  | keep
  deriving DecidableEq, Repr

/-- The signs after the indicator of a block, in either order: how its end is chomped, and its
indentation as a digit other than zero. -/
def blockHeader (c : Cursor) : Except DocumentError (Chomping × Option Nat × Cursor) :=
  let sign (c : Cursor) : Chomping × Cursor :=
    match c.peek with
    | some '+' => (.keep, c.next)
    | some '-' => (.strip, c.next)
    | _ => (.clip, c)
  let digit (c : Cursor) : Option Nat × Cursor :=
    match c.peek with
    | some a => if '0' ≤ a ∧ a ≤ '9' then (some (a.toNat - 0x30), c.next) else (none, c)
    | none => (none, c)
  let (chomping, increment, c) :=
    match sign c with
    | (.clip, _) =>
      let (increment, c) := digit c
      if increment.isSome then let (chomping, c) := sign c; (chomping, increment, c)
      else (.clip, none, c)
    | (chomping, c) => let (increment, c) := digit c; (chomping, increment, c)
  if increment == some 0 || !(c.peek.all fun a => a == ' ' || isBreak a) then .error .malformed
  else
    let (_, c) := c.span (· == ' ')
    let (_, c) := if c.peek == some '#' then c.span (!isBreak ·) else ([], c)
    match c.lineBreak? with
    | some (_, c) => .ok (chomping, increment, c)
    | none => if c.rest.isEmpty then .ok (chomping, increment, c) else .error .malformed

/-- The blank lines before a block, and the widest column that their spaces reach. -/
def blockIndentation : Nat → Nat → Cursor → List Char × Nat × Cursor
  | 0, widest, c => ([], widest, c)
  | bound + 1, widest, c =>
    if c.peek == some ' ' then blockIndentation bound (max widest c.next.column) c.next
    else match c.lineBreak? with
      | some (b, c) =>
        let (bs, widest, c) := blockIndentation bound widest c
        (b :: bs, widest, c)
      | none => ([], widest, c)

/-- The spaces up to a column. -/
def skipIndent (indent : Nat) (c : Cursor) : Cursor :=
  c.skip ((c.rest.take (indent - c.column)).takeWhile (· == ' ')).length

/-- The blank lines between two lines of a block. -/
def blockBreaks (indent : Nat) : Nat → Cursor → List Char × Cursor
  | 0, c => ([], c)
  | bound + 1, c =>
    let c := skipIndent indent c
    match c.lineBreak? with
    | some (b, c) =>
      let (bs, c) := blockBreaks indent bound c
      (b :: bs, c)
    | none => ([], c)

/-- The lines of a block: their text up to the last character before the final line breaks, the
first of those, the others, and the cursor after the block. -/
def blockLines (folded : Bool) (indent : Nat) :
    Nat → Cursor → List Char × List Char × List Char × Cursor
  | 0, c => ([], [], [], c)
  | bound + 1, c =>
    let (line, after) := c.span (!isBreak ·)
    let (last, after) := match after.lineBreak? with
      | some (b, c) => ([b], c)
      | none => ([], after)
    let (breaks, after) := blockBreaks indent after.rest.length after
    if after.column == indent && !after.rest.isEmpty then
      let joined :=
        if folded && last == ['\n'] && !(c.peek.any isSpace) && !(after.peek.any isSpace) then
          if breaks.isEmpty then [' '] else []
        else last
      let (text, last, final, c) := blockLines folded indent bound after
      (line ++ joined ++ breaks ++ text, last, final, c)
    else (line, last, breaks, after)

/-- A block scalar, from its indicator, inside a block of this indentation. -/
def blockScalar (folded : Bool) (parent : Int) (c : Cursor) :
    Except DocumentError (List Char × Cursor) := do
  let (chomping, increment, c) ← blockHeader c.next
  let least := (max 1 (parent + 1)).toNat
  let (breaks, indent, c) := match increment with
    | some n =>
      let indent := least + n - 1
      let (breaks, c) := blockBreaks indent c.rest.length c
      (breaks, indent, c)
    | none =>
      let (breaks, widest, c) := blockIndentation c.rest.length 0 c
      (breaks, max least widest, c)
  let (text, last, final, c) :=
    if c.column == indent && !c.rest.isEmpty then
      let (text, last, final, c) := blockLines folded indent (c.rest.length + 1) c
      (breaks ++ text, last, final, c)
    else ([], [], breaks, c)
  .ok <| match chomping with
    | .clip => (text ++ last, c)
    | .strip => (text, c)
    | .keep => (text ++ last ++ final, c)

end NaturalDeduction.Document
