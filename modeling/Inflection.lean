import Inflection.Main
import Inflection.Proofs.AncestorSearch
import Inflection.Proofs.Inclusion
import Inflection.Proofs.Prescription
import Inflection.Proofs.Projection
import Inflection.Proofs.Sessions
import Inflection.Proofs.StandIn
import Inflection.Proofs.Defects
import Inflection.Proofs.FirstDeclared
import Inflection.Proofs.Sameness
import Inflection.Proofs.Growth
import Inflection.Proofs.Batches
import Inflection.Proofs.Contents
import Inflection.Proofs.Noise
import Inflection.Proofs.Rearrangement
import Inflection.Proofs.Replacements
import Inflection.Proofs.Heredity
import Inflection.Proofs.Shadows
import Inflection.Proofs.Lookups
import Inflection.Proofs.Counts
import Inflection.Proofs.Acceptance
import Inflection.Proofs.WrittenParadigms
import Inflection.Proofs.Tables
import Inflection.Proofs.Defaults
import Inflection.Proofs.Merging
