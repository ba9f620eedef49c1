import DurableRefs.Library
import DurableRefs.Log.Filter
import DurableRefs.Proofs.Heap.Evaluation
import DurableRefs.Proofs.Heap.Changes
import DurableRefs.Proofs.Heap.Rooted
import DurableRefs.Proofs.Heap.Numbering
import DurableRefs.Proofs.Heap.Slots
import DurableRefs.Proofs.Heap.Lifetime
import DurableRefs.Proofs.Session.Reachable
import DurableRefs.Proofs.Heap.Audit
import DurableRefs.Proofs.Heap.Exchange
import DurableRefs.Proofs.Host.Agreement
import DurableRefs.Proofs.Host.Recording
import DurableRefs.Proofs.Host.Replay
import DurableRefs.Proofs.Host.Calls
import DurableRefs.Proofs.FunctionTable.Evaluation
import DurableRefs.Proofs.FunctionTable.History
import DurableRefs.Proofs.FunctionTable.Nesting
import DurableRefs.Proofs.FunctionTable.Failure
import DurableRefs.Proofs.FunctionTable.Deletion
import DurableRefs.Proofs.Heap.Scopes
import DurableRefs.Proofs.Heap.Failures
import DurableRefs.Proofs.Heap.Dangling
import DurableRefs.Proofs.Heap.Allocation
import DurableRefs.Proofs.Heap.Collection
import DurableRefs.Proofs.Heap.Commutation
import DurableRefs.Proofs.Heap.Reframes
import DurableRefs.Proofs.Heap.Locals
import DurableRefs.Proofs.Heap.Guards
import DurableRefs.Proofs.Host.Tracing
import DurableRefs.Proofs.Host.Traces
import DurableRefs.Proofs.Text.Encoding
import DurableRefs.Proofs.Text.Word
import DurableRefs.Proofs.Settings
import DurableRefs.Proofs.Library
