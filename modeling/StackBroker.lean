import StackBroker.Broker.History
import StackBroker.Broker.Interleaving
import StackBroker.Http.Server
import StackBroker.Http.Credentials.Exact
import StackBroker.Stack.CommandLine
import StackBroker.Main
import StackBroker.Cuts
import StackBroker.StringMap.Lookup
import StackBroker.StringMap.Keys
import StackBroker.Text.Base64.Bits
import StackBroker.Text.Utf8.Exact
import StackBroker.Proofs.Standing
import StackBroker.Proofs.Isolation
import StackBroker.Proofs.Mutations
import StackBroker.Proofs.Authorization
import StackBroker.Proofs.Calls
import StackBroker.Proofs.Classification
import StackBroker.Proofs.Validation
import StackBroker.Proofs.CallerParameters
import StackBroker.Proofs.Projection
import StackBroker.Proofs.Linearization
import StackBroker.Proofs.Scanning
import StackBroker.Proofs.Documents
import StackBroker.Proofs.Echo
import StackBroker.Proofs.Targets
import StackBroker.Proofs.Carriage
import StackBroker.Proofs.Admission
import StackBroker.Proofs.Gates
import StackBroker.Proofs.ErrorAnswers
import StackBroker.Proofs.Wording
import StackBroker.Proofs.ErrorLines
import StackBroker.Proofs.LostCodes
import StackBroker.Proofs.BasicHeaders
import StackBroker.Proofs.CreationArguments
import StackBroker.Proofs.Modifications
import StackBroker.Proofs.Conditions
import StackBroker.Proofs.FirstFaults
import StackBroker.Proofs.Decisions
import StackBroker.Proofs.Selection
import StackBroker.Proofs.Overlays
import StackBroker.Calendar.Gregorian
import StackBroker.Proofs.Decoding
import StackBroker.Proofs.TagSets
import StackBroker.Proofs.Timestamps
import StackBroker.Proofs.Labels
