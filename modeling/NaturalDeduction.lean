import NaturalDeduction.Formula.Subformula
import NaturalDeduction.Session
import NaturalDeduction.Desk
import NaturalDeduction.Proofs.Formula.Meaning
import NaturalDeduction.Proofs.Rule.Answer
import NaturalDeduction.Proofs.Rule.EitherOrder
import NaturalDeduction.Proofs.Formula.WellFormed
import NaturalDeduction.Proofs.Rule.Conditional
import NaturalDeduction.Proofs.Rule.Biconditional
import NaturalDeduction.Proofs.Rule.Structural
import NaturalDeduction.Proofs.Rule.Conjunction
import NaturalDeduction.Proofs.Rule.Disjunction
import NaturalDeduction.Proofs.Suggestions
import NaturalDeduction.Proofs.Verifier
import NaturalDeduction.Proofs.Agreement
import NaturalDeduction.Proofs.Reordering
import NaturalDeduction.Proofs.Safety
import NaturalDeduction.Proofs.Soundness
import NaturalDeduction.Proofs.Formula.Reduction
import NaturalDeduction.Proofs.Formula.Substitution
import NaturalDeduction.Proofs.Schematic
import NaturalDeduction.Proofs.EntryPoints
import NaturalDeduction.Proofs.Formula.Atoms
import NaturalDeduction.Proofs.Formula.Readable
import NaturalDeduction.Proofs.UniqueReading
import NaturalDeduction.Proofs.Session
import NaturalDeduction.Proofs.Formula.Flattening
import NaturalDeduction.Proofs.NestedOperands
import NaturalDeduction.Proofs.WrittenDisjuncts
import NaturalDeduction.Proofs.Rule.Arrangement
import NaturalDeduction.Proofs.SwappedPremises
import NaturalDeduction.Proofs.Proposals
import NaturalDeduction.Proofs.Tolerance
import NaturalDeduction.Proofs.MajorPremise
import NaturalDeduction.Proofs.CountedPremises
import NaturalDeduction.Proofs.LoadedSettings
import NaturalDeduction.Proofs.Formula.Containment
import NaturalDeduction.Proofs.SettingsStages
import NaturalDeduction.Proofs.SettingsDepth
import NaturalDeduction.Proofs.IllTypedSettings
import NaturalDeduction.Proofs.ForgivenFaults
import NaturalDeduction.Proofs.OpenSuggestions
import NaturalDeduction.Proofs.Formula.Congruence
import NaturalDeduction.Proofs.Formula.ContainmentOrder
