import TraceArbiter.Arbiter.Activation
import TraceArbiter.Arbiter.Removal
import TraceArbiter.Arbiter.TracerReset
import TraceArbiter.Event.Scan
import TraceArbiter.Facility.Mounted
import TraceArbiter.Facility.Simulation
import TraceArbiter.Wire.Report
import TraceArbiter.Wire.Session
import TraceArbiter.Proofs.Annotation.HeldElsewhere
import TraceArbiter.Proofs.Annotation.Restarts
import TraceArbiter.Proofs.Annotation.Wanted
import TraceArbiter.Proofs.Arbiter.ChosenOnce
import TraceArbiter.Proofs.Arbiter.Coexistence
import TraceArbiter.Proofs.Arbiter.Registry
import TraceArbiter.Proofs.Event.Accounted
import TraceArbiter.Proofs.Event.FreshStart
import TraceArbiter.Proofs.Syscall.Coverage
import TraceArbiter.Proofs.Syscall.Leftover
import TraceArbiter.Proofs.Syscall.Policy
import TraceArbiter.Proofs.Tracer.HalfReset
import TraceArbiter.Proofs.Tracer.Engaged
import TraceArbiter.Proofs.Wire.RoundTrip
import TraceArbiter.Proofs.Buffer.Rounding
import TraceArbiter.Proofs.Buffer.Pinned
import TraceArbiter.Proofs.Clock.Listing
import TraceArbiter.Proofs.Clock.Selected
import TraceArbiter.Proofs.Arbiter.Repeated
import TraceArbiter.Proofs.Arbiter.RemovalOrder
import TraceArbiter.Proofs.Request.Union
import TraceArbiter.Proofs.Request.Spelling
import TraceArbiter.Proofs.Annotation.Calls
import TraceArbiter.Proofs.Category.Statements
import TraceArbiter.Proofs.Event.Indexes
import TraceArbiter.Proofs.Category.Listing
import TraceArbiter.Proofs.Category.Composition
import TraceArbiter.Proofs.Facility.Paths
import TraceArbiter.Proofs.Facility.Reordered
import TraceArbiter.Proofs.Event.Scanned
import TraceArbiter.Proofs.Facility.FilterLists
import TraceArbiter.Proofs.Syscall.Join
import TraceArbiter.Proofs.Syscall.Skipped
