import NaturalDeduction.Session

/-!
# Open suggestions

Suggestions need not be taken all at once, nor one sequence of them after the other. A desk is a
session together with the sequences that are open. A sequence is known by its place, which it keeps
for good, and is taken from piece by piece.
-/

namespace NaturalDeduction

/-- A session, and the sequences of suggestions that are open, in the order of their opening. -/
structure Desk where
  session : Session := {}
  sequences : List Suggestions := []

namespace Desk

/-- Opens a sequence, at the place after those that are open already. -/
def lay (d : Desk) (s : Suggestions) : Desk := { d with sequences := d.sequences ++ [s] }

/-- Suggests conclusions with the session's verifier and opens them, if there are any to suggest.
The answer is the place where they are open. -/
def openSuggestions (reader : Reader) (d : Desk) (rule : RuleRef) (premises : List Premise) :
    Reply (Option Nat) × Desk :=
  let (reply, session) := d.session.suggest reader rule premises
  let d := { d with session }
  match reply.outcome with
  | .ok (some s) => ({ outcome := .ok (some d.sequences.length), log := reply.log }, d.lay s)
  | .ok none => ({ outcome := .ok none, log := reply.log }, d)
  | .error fault => ({ outcome := .error fault, log := reply.log }, d)

/-- Takes up to `n` more suggestions from the sequence at a place. -/
def take (d : Desk) (place n : Nat) : List String × Desk :=
  match d.sequences[place]? with
  | none => ([], d)
  | some s =>
    let (items, rest) := s.take n
    (items, { d with sequences := d.sequences.set place rest })

end Desk

end NaturalDeduction
