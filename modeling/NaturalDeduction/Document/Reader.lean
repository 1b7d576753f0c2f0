import NaturalDeduction.Document.Node
import NaturalDeduction.Document.Scalar

/-!
# Reading a document

`Document.read` turns a text into the value it writes. Of entries with the same key the last one
gives the value. The plain key `<<` merges the entries of a mapping, or of several in a sequence,
into the mapping it stands in, before the entries written there; the plain key `=` is a text. Lists
and mappings cannot be keys.

Of several faults in the scalars of a document the first one level by level is reported: those that
stand directly in the outermost collection come before all that stand deeper, and so on inwards.
-/

namespace NaturalDeduction.Document

namespace Node

/-! ## Merging -/

/-- Whether a node is the plain scalar that merges, where it is a key. -/
def isMerge : Node → Bool
  | .plain s => s == ['<', '<']
  | _ => false

/-- The entries of a mapping without merge keys. -/
def entries? : Node → Option (List (Node × Node))
  | .mapping entries => if entries.any fun (key, _) => isMerge key then none else some entries
  | _ => none

/-- The entries that the content of a merge key brings in; of several mappings the last one comes
first. -/
def broughtIn? : Node → Option (List (Node × Node))
  | .sequence items => (items.mapM entries?).map fun es => es.reverse.flatten
  | content => content.entries?

mutual

/-- The node with its merge keys carried out, the inner ones first. Where that cannot be done a
mapping keeps its merge keys and nothing else, and has no value. -/
def merged : Node → Node
  | .plain s => .plain s
  | .text codes => .text codes
  | .sequence items => .sequence (mergedItems items)
  | .mapping entries =>
    let (merges, others) := (mergedEntries entries).partition fun (key, _) => isMerge key
    match merges.mapM fun (_, content) => broughtIn? content with
    | some brought => .mapping (brought.flatten ++ others)
    | none => .mapping merges

/-- Several nodes with their merge keys carried out. -/
def mergedItems : List Node → List Node
  | [] => []
  | item :: rest => merged item :: mergedItems rest

/-- The entries of a mapping with the merge keys inside their contents carried out. -/
def mergedEntries : List (Node × Node) → List (Node × Node)
  | [] => []
  | (key, content) :: rest => (key, merged content) :: mergedEntries rest

end

/-! ## Values -/

/-- The value of a key, which is a scalar. -/
def keyValue : Node → Except DocumentError Value
  | .plain s => if s == ['='] then .ok (.text "=") else Scalar.value s
  | .text codes => .ok (Value.ofCodes codes)
  | _ => .error .malformed

mutual

/-- The value of a node. -/
def value : Node → Except DocumentError Value
  | .plain s => Scalar.value s
  | .text codes => .ok (Value.ofCodes codes)
  | .sequence items => (values items).map .list
  | .mapping entries => (valueEntries [] entries).map .mapping

/-- The values of several nodes. -/
def values : List Node → Except DocumentError (List Value)
  | [] => .ok []
  | item :: rest => do .ok ((← value item) :: (← values rest))

/-- The entries of a mapping, added to those before them. -/
def valueEntries (before : List (Value × Value)) :
    List (Node × Node) → Except DocumentError (List (Value × Value))
  | [] => .ok before
  | (key, content) :: rest => do
    let k ← keyValue key
    valueEntries (Value.insert k (← value content) before) rest

end

/-! ## Faults level by level -/

/-- Two lists of levels as one, outermost with outermost. -/
def besides : List (List Node) → List (List Node) → List (List Node)
  | [], inner => inner
  | outer, [] => outer
  | a :: outer, b :: inner => (a ++ b) :: besides outer inner

mutual

/-- The collections of a node that are no part of a key, by their depth, itself first if it is
one. -/
def levels : Node → List (List Node)
  | .sequence items => [.sequence items] :: levelsOfItems items
  | .mapping entries => [.mapping entries] :: levelsOfContents entries
  | _ => []

/-- The collections of several nodes by their depth. -/
def levelsOfItems : List Node → List (List Node)
  | [] => []
  | item :: rest => besides (levels item) (levelsOfItems rest)

/-- The collections of the contents of entries by their depth. -/
def levelsOfContents : List (Node × Node) → List (List Node)
  | [] => []
  | (_, content) :: rest => besides (levels content) (levelsOfContents rest)

end

/-- Reports a scalar that has no value. Collections are not looked into. -/
def checkScalar : Node → Except DocumentError Unit
  | .plain s => (Scalar.value s).map fun _ => ()
  | _ => .ok ()

/-- Reports the first fault that stands directly in a collection: a key that cannot be one, or a
scalar that has no value. -/
def checkDirect : Node → Except DocumentError Unit
  | .sequence items => items.forM checkScalar
  | .mapping entries => entries.forM fun (key, content) => do
    let _ ← key.keyValue
    content.checkScalar
  | _ => .ok ()

end Node

/-- The value that a text writes. -/
def read (text : List Char) : Except DocumentError Value := do
  let node := (← Node.ofTokens (tokens text)).merged
  node.levels.flatten.forM Node.checkDirect
  node.value

end NaturalDeduction.Document
