import ContextHub.Chaos
import ContextHub.Config.Basic
import ContextHub.Hub.Dispatch
import ContextHub.Hub.Dump
import ContextHub.Metrics
import ContextHub.Nanoapp.Registry
import ContextHub.Simulation.World
import ContextHub.Queue
import ContextHub.Request.Slot
import ContextHub.Trace
import ContextHub.Main
import ContextHub.Config.Render
import ContextHub.Json.Number
import ContextHub.Json.Reader
import ContextHub.Proofs.Timer.Handles
import ContextHub.Proofs.Timer.Headroom
import ContextHub.Proofs.Hub.SystemTimers
import ContextHub.Proofs.Hub.Deliveries
import ContextHub.Proofs.Hub.ScanAnswers
import ContextHub.Proofs.Hub.BoundedQueue
import ContextHub.Proofs.Hub.HeapUse
import ContextHub.Proofs.Hub.WakeUp
import ContextHub.Proofs.Hub.Unloading
import ContextHub.Proofs.Hub.Permissions
import ContextHub.Proofs.Hub.SafeCalls
import ContextHub.Proofs.Hub.CellLedger
import ContextHub.Proofs.Hub.Convergence
import ContextHub.Proofs.Hub.Fates
import ContextHub.Proofs.Hub.Monitoring
import ContextHub.Proofs.Hub.ScanSharing
import ContextHub.Proofs.Simulation.Punctual
import ContextHub.Proofs.Simulation.Slicing
import ContextHub.Proofs.Demo.Lossless
import ContextHub.Proofs.Hub.Powering
import ContextHub.Proofs.Hub.Refusals
import ContextHub.Proofs.Hub.Strays
import ContextHub.Proofs.Hub.Subscriptions
import ContextHub.Proofs.Hub.Tallying
import ContextHub.Proofs.Timer.Ending
import ContextHub.Proofs.Heap.Isolation
import ContextHub.Proofs.Hub.Handling
import ContextHub.Proofs.Hub.ScanProtocol
import ContextHub.Proofs.Hub.ScanExchanges
import ContextHub.Proofs.Hub.ScanRetries
import ContextHub.Proofs.Trace.Framing
import ContextHub.Proofs.Hub.Closing
import ContextHub.Proofs.Hub.Enrolment
import ContextHub.Proofs.Hub.Overflow
import ContextHub.Proofs.Config.Rendering
import ContextHub.Proofs.Request.Counting
