import RedactableLedger.Lifecycle.Concurrent
import RedactableLedger.Main
import RedactableLedger.Proofs.Canonical
import RedactableLedger.Proofs.CommandLine.Failure
import RedactableLedger.Proofs.CommandLine.Staging
import RedactableLedger.Proofs.Concurrent.Serial
import RedactableLedger.Proofs.Content
import RedactableLedger.Proofs.Inline
import RedactableLedger.Proofs.Lifecycle.Atomic
import RedactableLedger.Proofs.Lifecycle.Blind
import RedactableLedger.Proofs.Lifecycle.Commute
import RedactableLedger.Proofs.Lifecycle.Exposure
import RedactableLedger.Proofs.Lifecycle.Guard
import RedactableLedger.Proofs.Lifecycle.Kinds
import RedactableLedger.Proofs.Lookup
import RedactableLedger.Proofs.Network.Correlation
import RedactableLedger.Proofs.Network.Stream
import RedactableLedger.Proofs.Refusal
import RedactableLedger.Proofs.Rest.Accounting
import RedactableLedger.Proofs.Rest.Records
import RedactableLedger.Proofs.Store.Interrupted
