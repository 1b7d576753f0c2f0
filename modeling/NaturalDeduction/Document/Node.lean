import NaturalDeduction.Document.Lexer

/-!
# From tokens to nodes

The tree of a document: scalars as they are written, sequences, and mappings from nodes to nodes,
before it is settled what the scalars mean.

The parser is a function from tokens to a node and the tokens after it, by recursion over the
grammar. Its first argument bounds the depth of the recursion; no call is deeper than twice the
number of tokens, since of a call and the call inside it one takes a token.
-/

namespace NaturalDeduction.Document

/-- A node of a document. -/
inductive Node
  /-- A scalar without quotes, whose spelling decides what it means. -/
  | plain (s : List Char)
  /-- A text, by its code points. -/
  | text (codes : List Nat)
  | sequence (items : List Node)
  | mapping (entries : List (Node × Node))

namespace Node

/-- What stands where nothing is written. -/
def empty : Node := .plain []

/-- Why parsing cannot go on at these tokens: for the fault that comes first, if one does, and
otherwise because the first one does not fit. -/
def unexpected : List Token → DocumentError
  | .fault why :: _ => why
  | _ => .malformed

mutual

/-- A node in block context. A sequence as a value may stand at the indentation of its key, where it
has no start and no end of its own. -/
def block (indentless : Bool) : Nat → List Token → Except DocumentError (Node × List Token)
  | 0, _ => .error .malformed
  | bound + 1, ts =>
    match ts with
    | .plain s :: ts => .ok (.plain s, ts)
    | .text codes :: ts => .ok (.text codes, ts)
    | .openSequence :: ts => flowSequence bound true [] ts
    | .openMapping :: ts => flowMapping bound true [] ts
    | .blockSequence :: ts => blockSequence bound [] ts
    | .blockMapping :: ts => blockMapping bound [] ts
    | .entry :: _ => if indentless then indentlessSequence bound [] ts else .error .malformed
    | ts => .error (unexpected ts)

/-- A node in flow context. -/
def flow : Nat → List Token → Except DocumentError (Node × List Token)
  | 0, _ => .error .malformed
  | bound + 1, ts =>
    match ts with
    | .plain s :: ts => .ok (.plain s, ts)
    | .text codes :: ts => .ok (.text codes, ts)
    | .openSequence :: ts => flowSequence bound true [] ts
    | .openMapping :: ts => flowMapping bound true [] ts
    | ts => .error (unexpected ts)

/-- The entries of a block sequence, up to its end. -/
def blockSequence : Nat → List Node → List Token → Except DocumentError (Node × List Token)
  | 0, _, _ => .error .malformed
  | bound + 1, items, ts =>
    match ts with
    | .blockEnd :: ts => .ok (.sequence items.reverse, ts)
    | .entry :: .entry :: ts => blockSequence bound (empty :: items) (.entry :: ts)
    | .entry :: .blockEnd :: ts => blockSequence bound (empty :: items) (.blockEnd :: ts)
    | .entry :: ts => do
      let (item, ts) ← block false bound ts
      blockSequence bound (item :: items) ts
    | ts => .error (unexpected ts)

/-- The entries of a sequence that stands at the indentation of its key. -/
def indentlessSequence : Nat → List Node → List Token → Except DocumentError (Node × List Token)
  | 0, _, _ => .error .malformed
  | bound + 1, items, ts =>
    match ts with
    | .entry :: t :: ts =>
      if t = .entry ∨ t = .key ∨ t = .value ∨ t = .blockEnd then
        indentlessSequence bound (empty :: items) (t :: ts)
      else do
        let (item, ts) ← block false bound (t :: ts)
        indentlessSequence bound (item :: items) ts
    | [.entry] => .error .malformed
    | ts => .ok (.sequence items.reverse, ts)

/-- A key or a value of a block mapping, which may be left out. -/
def blockPart : Nat → List Token → Except DocumentError (Node × List Token)
  | 0, _ => .error .malformed
  | bound + 1, ts =>
    match ts with
    | .key :: _ | .value :: _ | .blockEnd :: _ => .ok (empty, ts)
    | ts => block true bound ts

/-- The entries of a block mapping, up to its end. -/
def blockMapping :
    Nat → List (Node × Node) → List Token → Except DocumentError (Node × List Token)
  | 0, _, _ => .error .malformed
  | bound + 1, entries, ts =>
    match ts with
    | .blockEnd :: ts => .ok (.mapping entries.reverse, ts)
    | .key :: ts => do
      let (key, ts) ← blockPart bound ts
      let (value, ts) ← match ts with
        | .value :: ts => blockPart bound ts
        | ts => .ok (empty, ts)
      blockMapping bound ((key, value) :: entries) ts
    | ts => .error (unexpected ts)

/-- A key or a value of a flow collection, which may be left out. -/
def flowPart : Nat → List Token → Except DocumentError (Node × List Token)
  | 0, _ => .error .malformed
  | bound + 1, ts =>
    match ts with
    | .value :: _ | .comma :: _ | .closeSequence :: _ | .closeMapping :: _ => .ok (empty, ts)
    | ts => flow bound ts

/-- A key of a flow collection with its value, from after the key token. -/
def flowPair : Nat → List Token → Except DocumentError ((Node × Node) × List Token)
  | 0, _ => .error .malformed
  | bound + 1, ts => do
    let (key, ts) ← flowPart bound ts
    let (value, ts) ← match ts with
      | .value :: .value :: _ => .error .malformed
      | .value :: ts => flowPart bound ts
      | ts => .ok (empty, ts)
    .ok ((key, value), ts)

/-- The entries of a flow sequence, up to its bracket. A key with its value, as an entry, is a
mapping of one entry. -/
def flowSequence :
    Nat → Bool → List Node → List Token → Except DocumentError (Node × List Token)
  | 0, _, _, _ => .error .malformed
  | bound + 1, first, items, ts =>
    match ts, first with
    | .closeSequence :: ts, _ => .ok (.sequence items.reverse, ts)
    | .comma :: .closeSequence :: ts, false => .ok (.sequence items.reverse, ts)
    | .comma :: .key :: ts, false | .key :: ts, true => do
      let (pair, ts) ← flowPair bound ts
      flowSequence bound false (.mapping [pair] :: items) ts
    | .comma :: ts, false => do
      let (item, ts) ← flow bound ts
      flowSequence bound false (item :: items) ts
    | ts, true => do
      let (item, ts) ← flow bound ts
      flowSequence bound false (item :: items) ts
    | ts, false => .error (unexpected ts)

/-- The entries of a flow mapping, up to its brace. A node that is no key is one without a value. -/
def flowMapping :
    Nat → Bool → List (Node × Node) → List Token → Except DocumentError (Node × List Token)
  | 0, _, _, _ => .error .malformed
  | bound + 1, first, entries, ts =>
    match ts, first with
    | .closeMapping :: ts, _ => .ok (.mapping entries.reverse, ts)
    | .comma :: .closeMapping :: ts, false => .ok (.mapping entries.reverse, ts)
    | .comma :: .key :: ts, false | .key :: ts, true => do
      let (pair, ts) ← flowPair bound ts
      flowMapping bound false (pair :: entries) ts
    | .comma :: ts, false => do
      let (key, ts) ← flow bound ts
      flowMapping bound false ((key, empty) :: entries) ts
    | ts, true => do
      let (key, ts) ← flow bound ts
      flowMapping bound false ((key, empty) :: entries) ts
    | ts, false => .error (unexpected ts)

end

/-- The node of the only document; a text without any is the empty node. -/
def ofTokens (ts : List Token) : Except DocumentError Node :=
  let bound := 2 * ts.length + 2
  let ending (result : Node × List Token) : Except DocumentError Node :=
    match result.2.dropWhile (· = .documentEnd) with
    | [] => .ok result.1
    | ts => .error (unexpected ts)
  match ts with
  | [] => .ok empty
  | .documentStart :: ts =>
    match ts with
    | [] | .documentStart :: _ | .documentEnd :: _ => ending (empty, ts)
    | ts => block false bound ts >>= ending
  | ts => block false bound ts >>= ending

end Node

end NaturalDeduction.Document
