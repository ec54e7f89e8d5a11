import ServiceHost.Lifecycle.Routine

/-! Bringing one resource up: its start runs on a task of its own until it reports ready, fails, takes too
long, or a stop is triggered. -/

namespace ServiceHost.Lifecycle

open Routine

def recordStart (o : StartOutcome) (e : Event) (h : Host) : Host :=
  { h with metrics := h.metrics.recordStart o }.emit e

/-- What the report of a start means for the boot. -/
def judgeReport (r : ResourceId) (name : String) (t : TaskId) :
    Option (Except ResourceError Unit) → Routine (Except BootError Started)
  | some (.ok ()) => do
    update (recordStart .ready (.ready name))
    return .ok ⟨r, t⟩
  | some (.error e) => do
    update (recordStart .failed (.startFailed name e))
    return .error (.start name e)
  | none => do
    update (recordStart .failed (.startAborted name))
    return .error (.aborted name)

def startResource (r : ResourceId) (audience : Audience) (timeoutMs : Nat) :
    Routine (Except BootError Started) := do
  let name ← read (·.resourceName r)
  emit (.starting name)
  let t ← act (·.launch r audience)
  let deadline ← read (·.now + timeoutMs)
  match ← waitAny [.reported t, .due deadline, .triggered] with
  | 0 => judgeReport r name t (← read (·.readiness t))
  | 1 =>
    let timeout := Duration.ofMillis timeoutMs
    update fun h => recordStart .timedOut (.startTooSlow name timeout) (h.abort t)
    return .error (.timeout name timeout)
  | _ =>
    let reason := (← read (·.trigger.reason)).getD .requested
    update fun h => recordStart .interrupted (.startInterrupted name reason) (h.abort t)
    return .error (.interrupted name reason)

end ServiceHost.Lifecycle
