import Acquisition.Endpoint
import Acquisition.Main
import Acquisition.Rehearsal
import Acquisition.Proofs.Pipeline
import Acquisition.Proofs.Channels
import Acquisition.Proofs.ScanQueue
import Acquisition.Proofs.Sessions
import Acquisition.Proofs.Uses
import Acquisition.Proofs.Bound
import Acquisition.Proofs.Probe
import Acquisition.Proofs.Lifecycle
import Acquisition.Proofs.Conservation
import Acquisition.Proofs.Agreement
import Acquisition.Proofs.BoundedQueue
import Acquisition.Proofs.Commands
import Acquisition.Proofs.Moves
import Acquisition.Proofs.Registration
import Acquisition.Proofs.Attachment
import Acquisition.Proofs.Responses
import Acquisition.Proofs.Refusals
import Acquisition.Proofs.Programming
import Acquisition.Proofs.Nesting
import Acquisition.Proofs.EdgeAccount
import Acquisition.Proofs.Counters
import Acquisition.Proofs.Overlap
import Acquisition.Proofs.Wire
import Acquisition.Proofs.Links
import Acquisition.Proofs.Frames
import Acquisition.Proofs.Windows
import Acquisition.Proofs.RecordFormat
import Acquisition.Proofs.Accuracy
import Acquisition.Proofs.SetUp
import Acquisition.Proofs.Aspect
import Acquisition.Proofs.Retries
import Acquisition.Proofs.Selection
import Acquisition.Proofs.Freshness
import Acquisition.Proofs.Standing
import Acquisition.Proofs.Printout
import Acquisition.Proofs.Spread
import Acquisition.Proofs.Rates
import Acquisition.Proofs.Truncation
import Acquisition.Proofs.Numbers
import Acquisition.Proofs.OneInput
import Acquisition.Proofs.Names
import Acquisition.Proofs.RingQueue
import Acquisition.Proofs.Members
