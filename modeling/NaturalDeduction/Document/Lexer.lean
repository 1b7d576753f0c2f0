import NaturalDeduction.Document.Lexeme

/-!
# From characters to tokens

`tokens` reads a text as the tokens of a document. Two things make this more than splitting it up.

**Indentation.** Outside flow collections the column of a token opens and closes block collections.
The columns of the open ones are kept on a stack, and the tokens that no character stands for are
emitted when it grows or shrinks.

**Keys.** That a scalar or flow collection is a key shows only at the colon after it. Wherever a key
may begin the place is remembered, one for each level of flow collections, and the colon puts the
key token in at that place. A key ends on the line it begins on and is at most 1024 characters long;
one that stands at the indentation of its mapping must be followed by its colon.

A token is read only when the parser asks for it, or when the one that the parser is at may yet turn
out to begin a key. Where nothing can be read the tokens therefore end with the fault, after those
that the parser has been given before.
-/

namespace NaturalDeduction.Document

/-- A place where a key may begin: how many tokens came before it, where it is in the text, whether
it must turn out to be a key, and at which level of flow collections it stands. -/
structure KeyPlace where
  level : Nat
  tokensBefore : Nat
  required : Bool
  index : Nat
  line : Nat
  column : Nat

/-- The greatest length of a key. -/
def maxKeyLength : Nat := 1024

/-- What has been read so far, and what is open. -/
structure Lexer where
  cursor : Cursor
  /-- The tokens so far, the last one first. -/
  emitted : List Token := []
  /-- The column of the innermost block collection; before any is open, one less than the first. -/
  indent : Int := -1
  /-- The columns of the block collections around the innermost one. -/
  outer : List Int := []
  flowLevel : Nat := 0
  /-- Whether a key may begin at the next token. -/
  keyAllowed : Bool := true
  places : List KeyPlace := []

namespace Lexer

/-- Adds a token. -/
def emit (l : Lexer) (t : Token) : Lexer := { l with emitted := t :: l.emitted }

/-- Adds a token in place of the next `n` characters. -/
def emitOver (l : Lexer) (n : Nat) (t : Token) : Lexer :=
  { l with emitted := t :: l.emitted, cursor := l.cursor.skip n }

/-- Whether the reading is inside a flow collection. -/
def inFlow (l : Lexer) : Bool := l.flowLevel != 0

/-! ## Spaces and comments -/

/-- Skips spaces, comments and line breaks. Outside flow collections a key may begin on a new
line. -/
def skipBlank : Nat → Lexer → Lexer
  | 0, l => l
  | bound + 1, l =>
    let (_, c) := l.cursor.span (· == ' ')
    let (_, c) := if c.peek == some '#' then c.span (!isBreak ·) else ([], c)
    match c.lineBreak? with
    | some (_, c) => skipBlank bound { l with cursor := c, keyAllowed := l.keyAllowed || !l.inFlow }
    | none => { l with cursor := c }

/-! ## Keys -/

/-- Whether a place is too far back for a key. -/
def isStale (l : Lexer) (p : KeyPlace) : Bool :=
  p.line != l.cursor.line || maxKeyLength < l.cursor.index - p.index

/-- Forgets the places that are too far back; one that must be a key is an error. -/
def dropStale (l : Lexer) : Except DocumentError Lexer :=
  if l.places.any fun p => l.isStale p && p.required then .error .malformed
  else .ok { l with places := l.places.filter (!l.isStale ·) }

/-- Forgets the place at the present level; one that must be a key is an error. -/
def dropPlace (l : Lexer) : Except DocumentError Lexer :=
  if l.places.any fun p => p.level == l.flowLevel && p.required then .error .malformed
  else .ok { l with places := l.places.filter (·.level != l.flowLevel) }

/-- Remembers that a key may begin here, where that is allowed. -/
def markPlace (l : Lexer) : Except DocumentError Lexer :=
  if l.keyAllowed then do
    let l ← l.dropPlace
    let place : KeyPlace := {
      level := l.flowLevel
      tokensBefore := l.emitted.length
      required := !l.inFlow && l.indent == (l.cursor.column : Int)
      index := l.cursor.index
      line := l.cursor.line
      column := l.cursor.column }
    .ok { l with places := place :: l.places }
  else .ok l

/-! ## Indentation -/

/-- Closes the block collections that are indented further than a column. -/
def closeBlocks (column : Int) (l : Lexer) : Lexer :=
  if l.inFlow then l else close l.outer l
where
  /-- Closes them one by one; the list is the stack of outer columns. -/
  close : List Int → Lexer → Lexer
    | [], l => l
    | i :: is, l =>
      if column < l.indent then close is { l.emit .blockEnd with indent := i, outer := is } else l

/-- Opens a block collection at a column, unless one is open there. -/
def openBlock (column : Nat) (l : Lexer) : Bool × Lexer :=
  if l.indent < column then (true, { l with indent := column, outer := l.indent :: l.outer })
  else (false, l)

/-- Opens a block collection at the cursor and adds the token that begins it. Where it is not
allowed to begin is an error. -/
def beginBlock (start : Token) (l : Lexer) : Except DocumentError Lexer :=
  if l.inFlow then .ok l
  else if !l.keyAllowed then .error .malformed
  else
    let (opened, l) := l.openBlock l.cursor.column
    .ok (if opened then l.emit start else l)

/-! ## Single tokens -/

/-- A document separator. -/
def separator (t : Token) (l : Lexer) : Except DocumentError Lexer := do
  let l ← (l.closeBlocks (-1)).dropPlace
  .ok { l.emitOver 3 t with keyAllowed := false }

/-- An opening bracket or brace. -/
def openFlow (t : Token) (l : Lexer) : Except DocumentError Lexer := do
  let l ← l.markPlace
  .ok { l.emitOver 1 t with flowLevel := l.flowLevel + 1, keyAllowed := true }

/-- A closing bracket or brace. -/
def closeFlow (t : Token) (l : Lexer) : Except DocumentError Lexer := do
  let l ← l.dropPlace
  if l.flowLevel = 0 then .error .malformed
  else .ok { l.emitOver 1 t with flowLevel := l.flowLevel - 1, keyAllowed := false }

/-- The comma of a flow collection. -/
def comma (l : Lexer) : Except DocumentError Lexer := do
  let l ← l.dropPlace
  .ok { l.emitOver 1 .comma with keyAllowed := true }

/-- The dash before an entry of a block sequence. -/
def entry (l : Lexer) : Except DocumentError Lexer := do
  let l ← (← l.beginBlock .blockSequence).dropPlace
  .ok { l.emitOver 1 .entry with keyAllowed := true }

/-- The question mark before a key. -/
def explicitKey (l : Lexer) : Except DocumentError Lexer := do
  let l ← (← l.beginBlock .blockMapping).dropPlace
  .ok { l.emitOver 1 .key with keyAllowed := !l.inFlow }

/-- Puts tokens in after the first `n` ones. -/
def insertAfter (n : Nat) (ts : List Token) (l : Lexer) : Lexer :=
  let later := l.emitted.length - n
  { l with emitted := l.emitted.take later ++ ts.reverse ++ l.emitted.drop later }

/-- The colon between a key and its value. If a key may have begun at a place of this level, it did;
otherwise the colon belongs to an explicit key, or to one that is left out. -/
def colon (l : Lexer) : Except DocumentError Lexer :=
  match l.places.find? (·.level == l.flowLevel) with
  | some place =>
    let l := { l with places := l.places.filter (·.level != l.flowLevel), keyAllowed := false }
    let (opened, l) := if l.inFlow then (false, l) else l.openBlock place.column
    let ts := if opened then [.blockMapping, .key] else [.key]
    .ok ((l.insertAfter place.tokensBefore ts).emitOver 1 .value)
  | none => do
    let l ← l.beginBlock .blockMapping
    let l ← { l with keyAllowed := !l.inFlow }.dropPlace
    .ok (l.emitOver 1 .value)

/-- A plain scalar. -/
def plain (l : Lexer) : Except DocumentError Lexer := do
  let l ← l.markPlace
  let (text, cursor, broken) := plainScalar l.inFlow (l.indent + 1) l.cursor
  .ok { l.emit (.plain text) with cursor, keyAllowed := broken }

/-- A scalar between quotes. -/
def quoted (mark : Char) (l : Lexer) : Except DocumentError Lexer := do
  let l ← l.markPlace
  let (codes, cursor) ← quotedScalar mark l.cursor
  .ok { l.emit (.text codes) with cursor, keyAllowed := false }

/-- A block scalar. -/
def block (folded : Bool) (l : Lexer) : Except DocumentError Lexer := do
  let l ← l.dropPlace
  let (text, cursor) ← blockScalar folded l.indent l.cursor
  .ok { l.emit (.text (codePoints text)) with cursor, keyAllowed := true }

/-- The end of the text. -/
def finish (l : Lexer) : Except DocumentError Lexer := (l.closeBlocks (-1)).dropPlace

/-- Whether a plain scalar begins with this character before the next one. -/
def beginsPlain (inFlow : Bool) (a : Char) (next : Option Char) : Bool :=
  if a == '-' || (!inFlow && (a == '?' || a == ':')) then !endsWord next
  else !(isSpace a || isBreak a || "-?:,[]\x7b\x7d#&*!|>'\"%@\x60".toList.contains a)

/-- The token that begins with this character. -/
def token (a : Char) (l : Lexer) : Except DocumentError Lexer :=
  let next := l.cursor.peek 1
  if a == '%' && l.cursor.column == 0 then .error .unsupported
  else if l.cursor.column == 0 && l.cursor.atSeparator then
    l.separator (if a == '-' then .documentStart else .documentEnd)
  else match a with
    | '[' => l.openFlow .openSequence
    | '\x7b' => l.openFlow .openMapping
    | ']' => l.closeFlow .closeSequence
    | '\x7d' => l.closeFlow .closeMapping
    | ',' => l.comma
    | '\'' => l.quoted '\''
    | '"' => l.quoted '"'
    | _ =>
      if a == '-' && endsWord next then l.entry
      else if a == '?' && (l.inFlow || endsWord next) then l.explicitKey
      else if a == ':' && (l.inFlow || endsWord next) then l.colon
      else if a == '|' && !l.inFlow then l.block false
      else if a == '>' && !l.inFlow then l.block true
      else if beginsPlain l.inFlow a next then l.plain
      else if a == '&' || a == '*' || a == '!' then .error .unsupported
      else .error .malformed

/-- Reads the next token, or the end of the text, and answers whether it was the end. -/
def advance (l : Lexer) : Except DocumentError (Bool × Lexer) := do
  let l ← (l.skipBlank (l.cursor.rest.length + 1)).dropStale
  let l := l.closeBlocks l.cursor.column
  match l.cursor.peek with
  | none => .ok (true, ← l.finish)
  | some a => .ok (false, ← l.token a)

/-- The tokens that stay what they are whatever follows: those before the first place where a key
may yet turn out to begin. -/
def settled (l : Lexer) : List Token :=
  let places := l.places.filter (!l.isStale ·)
  l.emitted.reverse.take (places.foldl (fun n p => min n p.tokensBefore) l.emitted.length)

/-- Reads tokens up to the end of the text or to a fault. Every token takes up at least one
character, so the length of the text bounds their number. -/
def run : Nat → Lexer → List Token
  | 0, l => l.settled ++ [.fault .malformed]
  | bound + 1, l =>
    match l.advance with
    | .error why => l.settled ++ [.fault why]
    | .ok (true, l) => l.emitted.reverse
    | .ok (false, l) => run bound l

end Lexer

/-- Whether a character may stand in a document at all. -/
def isAdmitted (c : Char) : Bool :=
  let n := c.toNat
  n == 0x09 || n == 0x0a || n == 0x0d || (0x20 ≤ n && n ≤ 0x7e) || n == 0x85 ||
    (0xa0 ≤ n && n ≤ 0xfffd) || 0x10000 ≤ n

/-- The tokens of a document. A byte order mark before the text is passed over, and a text with a
character that is not admitted is not read at all. -/
def tokens (text : List Char) : List Token :=
  if text.all isAdmitted then
    let cursor : Cursor := { rest := text }
    let cursor := if cursor.peek == some '\uFEFF' then cursor.next else cursor
    Lexer.run (text.length + 1) { cursor }
  else [.fault .malformed]

end NaturalDeduction.Document
