import Provision.English
import Provision.Json.Reader
import Provision.Proofs.BestConversion
import Provision.Proofs.ChosenPatterns
import Provision.Proofs.DefaultIdentifiers
import Provision.Proofs.DisplayNames
import Provision.Proofs.NumberWidths
import Provision.Proofs.Plurality
import Provision.Proofs.Registry.Candidates
import Provision.Proofs.Registry.ChangeSupport
import Provision.Proofs.Registry.Conversion
import Provision.Proofs.Registry.Demand
import Provision.Proofs.Registry.Disambiguation
import Provision.Proofs.Registry.ExactPriority
import Provision.Proofs.Registry.Exclusions
import Provision.Proofs.Registry.Flags
import Provision.Proofs.Registry.Irrelevance
import Provision.Proofs.Registry.Keys
import Provision.Proofs.Registry.References
import Provision.Proofs.Registry.Refusal
import Provision.Proofs.Registry.RegistrationOrder
import Provision.Proofs.Registry.Ties
import Provision.Proofs.Registry.TimeStates
import Provision.Proofs.TypeTree.Arrays
import Provision.Proofs.TypeTree.Covariance
import Provision.Proofs.TypeTree.Distance
import Provision.Proofs.TypeTree.Failure
import Provision.Proofs.TypeTree.Run
import Provision.Proofs.View.Reconversion
import Provision.Proofs.WholeMatch
import Provision.Proofs.WordPatterns
import Provision.Record
