import Sexpr.Main
import Sexpr.Proofs.EarliestError
import Sexpr.Proofs.Effects
import Sexpr.Proofs.Joining
import Sexpr.Proofs.Respacing
import Sexpr.Proofs.Separation
import Sexpr.Proofs.Interleaving
import Sexpr.Proofs.Values
import Sexpr.Proofs.Bindings
import Sexpr.Proofs.Simulation
import Sexpr.Proofs.Substitution
import Sexpr.Proofs.Tiling
import Sexpr.Proofs.Faults
import Sexpr.Proofs.FileLines
import Sexpr.Proofs.WellFormed
import Sexpr.Proofs.Chains
import Sexpr.Proofs.Comparisons
import Sexpr.Proofs.Relevance
import Sexpr.Proofs.Repetition
import Sexpr.Proofs.Trail
import Sexpr.Proofs.Labels
import Sexpr.Proofs.Numerals
import Sexpr.Proofs.Reading
import Sexpr.Proofs.Decimals
import Sexpr.Proofs.Rounding
import Sexpr.Proofs.FloatTexts
import Sexpr.Proofs.Collections
import Sexpr.Proofs.Escapes
import Sexpr.Proofs.Trees
