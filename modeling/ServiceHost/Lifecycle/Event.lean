import ServiceHost.Lifecycle.Error
import ServiceHost.Lifecycle.Phase
import ServiceHost.Logging.Level

/-! What a service reports about itself while it runs. -/

namespace ServiceHost.Lifecycle

open Logging (Level)

inductive Field where
  | text (s : String)
  | number (n : Nat)

/-- The operating system's two stop signals. -/
inductive OsSignal where
  | interrupt | terminate
deriving DecidableEq

def OsSignal.reason : OsSignal → StopReason
  | interrupt => .interrupt
  | terminate => .terminate

inductive Event where
  | resourceAdded (resource : String)
  | bootIgnored (phase : Phase)
  | bootBegun (resources : Nat)
  | bootAborted (error : BootError) (notStarted : Nat)
  | bootDone (resources : Nat)
  | starting (resource : String)
  | ready (resource : String)
  | startFailed (resource : String) (error : ResourceError)
  | startAborted (resource : String)
  | startTooSlow (resource : String) (after : Duration)
  | startInterrupted (resource : String) (reason : StopReason)
  | startReturned (resource : String)
  | resourceClosed (resource : String)
  | resourceFailed (resource : String) (error : ResourceError)
  | triggered (reason : StopReason)
  | triggerIgnored (reason : StopReason)
  | signalReceived (signal : OsSignal)
  | shutdownIgnored (phase : Phase)
  | shutdownBegun (reason : StopReason) (timeout : Duration) (actions resources : Nat)
  | shutdownDone
  | shutdownFailed (failures : Failures)
  | cleanupIncomplete (failures : Failures)
  | actionRegistered (action : String) (position : Nat)
  | registrationRejected (action : String)
  | drainIgnored
  | drainBegun (actions remainingMs : Nat)
  | drainDone (actions failures : Nat)
  | actionDone (action : String)
  | actionFailed (action : String) (cause : Cause)
  | actionPanicked (action : String) (cause : Cause)
  | actionTimedOut (action : String)
  | actionSkipped (action : String)
  | closing (resource : String)
  | closeSkipped (resource : String)
  | closeFailed (resource : String) (error : ResourceError)
  | closeTimedOut (resource : String)
  | resourceStopped (resource : String)
  | startTaskPanicked (resource : String)
  | stopTimedOut (resource : String)
  | stoppedWithError (resource : String) (error : ResourceError)
  | listening (resource : String)
  | connectionsDraining (resource : String)
  | connectionsLeft (resource : String)
  | serverStopped (resource : String)
  | dialing (endpoint : String) (timeout : Duration)
  | connected (resource endpoint : String)
  | unreachable (endpoint cause : String)
  | dialTimedOut (endpoint : String)
  | disconnected (resource endpoint : String)

namespace Event

def level : Event → Level
  | bootAborted .. | startFailed .. | startAborted .. | startTooSlow .. | resourceFailed ..
  | shutdownFailed .. | cleanupIncomplete .. | actionFailed .. | actionPanicked ..
  | actionTimedOut .. | closeFailed .. | closeTimedOut .. | startTaskPanicked .. | stopTimedOut ..
  | stoppedWithError .. => .error
  | bootIgnored .. | startInterrupted .. | shutdownIgnored .. | registrationRejected .. | drainIgnored
  | actionSkipped .. | closeSkipped .. | connectionsLeft .. | unreachable .. | dialTimedOut .. => .warn
  | resourceAdded .. | triggerIgnored .. | actionRegistered .. | actionDone .. | closing ..
  | dialing .. => .debug
  | _ => .info

def message : Event → String
  | resourceAdded .. => "Resource added"
  | bootIgnored .. => "start_all called twice, ignoring"
  | bootBegun .. => "Starting resources"
  | bootAborted .. => "Boot aborted"
  | bootDone .. => "All resources started"
  | starting .. => "Starting resource"
  | ready .. => "Resource ready"
  | startFailed .. => "Resource failed to start"
  | startAborted .. => "Resource start task aborted"
  | startTooSlow .. => "Resource did not become ready in time"
  | startInterrupted .. => "Startup interrupted by shutdown"
  | startReturned .. => "Resource start returned"
  | resourceClosed .. => "Resource closed"
  | resourceFailed .. => "Resource failed while running"
  | triggered .. => "Shutdown triggered"
  | triggerIgnored .. => "Shutdown already triggered, ignoring"
  | signalReceived .interrupt => "Received Ctrl+C, initiating shutdown"
  | signalReceived .terminate => "Received SIGTERM, initiating shutdown"
  | shutdownIgnored .. => "Shutdown already in progress, ignoring"
  | shutdownBegun .. => "Shutting down"
  | shutdownDone => "Shutdown complete"
  | shutdownFailed .. => "Shutdown completed with failures"
  | cleanupIncomplete .. => "Cleanup after boot failure incomplete"
  | actionRegistered .. => "Shutdown action registered"
  | registrationRejected .. => "Registration rejected: registry already drained"
  | drainIgnored => "Shutdown registry already drained, ignoring"
  | drainBegun .. => "Draining shutdown registry"
  | drainDone .. => "Shutdown registry drained"
  | actionDone .. => "Shutdown action completed"
  | actionFailed .. => "Shutdown action failed"
  | actionPanicked .. => "Shutdown action panicked"
  | actionTimedOut .. => "Shutdown action exceeded the shutdown deadline"
  | actionSkipped .. => "Shutdown action skipped: deadline elapsed"
  | closing .. => "Closing resource"
  | closeSkipped .. => "Close skipped: deadline elapsed"
  | closeFailed .. => "Resource close failed"
  | closeTimedOut .. => "Resource close exceeded the shutdown deadline"
  | resourceStopped .. => "Resource stopped"
  | startTaskPanicked .. => "Resource start task panicked"
  | stopTimedOut .. => "Resource did not stop before the shutdown deadline"
  | stoppedWithError .. => "Resource stopped with error during shutdown"
  | listening .. => "HTTP server listening"
  | connectionsDraining .. => "HTTP server draining connections"
  | connectionsLeft .. => "HTTP server still draining at deadline"
  | serverStopped .. => "HTTP server stopped"
  | dialing .. => "Dialing coordination endpoint"
  | connected .. => "Coordination client connected"
  | unreachable .. => "Coordination endpoint unreachable"
  | dialTimedOut .. => "Coordination endpoint dial timed out"
  | disconnected .. => "Coordination client disconnected"

def fields : Event → List (String × Field)
  | bootIgnored p | shutdownIgnored p => [("state", .text p.text)]
  | bootBegun n | bootDone n => [("resources", .number n)]
  | bootAborted e n => [("error", .text e.message), ("not_started", .number n)]
  | startFailed r e | resourceFailed r e | closeFailed r e | stoppedWithError r e =>
      [("resource", .text r), ("error", .text e.message)]
  | startTooSlow r d => [("resource", .text r), ("timeout", .text d.text)]
  | startInterrupted r reason => [("resource", .text r), ("reason", .text reason.text)]
  | triggered reason | triggerIgnored reason => [("reason", .text reason.text)]
  | shutdownBegun reason d actions resources =>
      [("reason", .text reason.text), ("timeout", .text d.text), ("actions", .number actions),
        ("resources", .number resources)]
  | shutdownFailed fs =>
      [("failures", .number fs.length), ("error", .text (Failures.message fs))]
  | cleanupIncomplete fs => [("error", .text (Failures.message fs))]
  | actionRegistered a n => [("action", .text a), ("position", .number n)]
  | drainBegun n ms => [("actions", .number n), ("remaining_ms", .number ms)]
  | drainDone n k => [("actions", .number n), ("failures", .number k)]
  | registrationRejected a | actionDone a | actionTimedOut a | actionSkipped a =>
      [("action", .text a)]
  | actionFailed a c | actionPanicked a c => [("action", .text a), ("error", .text c.message)]
  | dialing e d => [("endpoint", .text e), ("timeout", .text d.text)]
  | unreachable e cause => [("endpoint", .text e), ("error", .text cause)]
  | dialTimedOut e => [("endpoint", .text e)]
  | connected r e | disconnected r e => [("resource", .text r), ("endpoint", .text e)]
  | resourceAdded r | starting r | ready r | startAborted r | startReturned r | resourceClosed r
  | closing r | closeSkipped r | closeTimedOut r | resourceStopped r | startTaskPanicked r
  | stopTimedOut r | listening r | connectionsDraining r | connectionsLeft r | serverStopped r =>
      [("resource", .text r)]
  | signalReceived _ | shutdownDone | drainIgnored => []

end Event

end ServiceHost.Lifecycle
