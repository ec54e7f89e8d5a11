import ServiceHost.Lifecycle.Behavior
import ServiceHost.Lifecycle.Startup

/-! The coordinator: it starts every resource, waits for a reason to stop, then drains the registry and
closes the resources under one deadline. -/

namespace ServiceHost.Lifecycle

open Routine

def addResource (r : ResourceId) (h : Host) : Host :=
  ((h.emit (.resourceAdded (h.resourceName r))).modifyCoordinator fun c =>
    { c with pending := c.pending ++ [r] }).record (.added r)

/-- Starts a listener for stop signals, once, if the configuration asks for one. -/
def listen (h : Host) : Host :=
  if h.coordinator.config.handleSignals && h.coordinator.listener.isNone then
    let (t, h) := h.spawn .listen
    h.modifyCoordinator fun c => { c with listener := some t }
  else h

def listenForSignals : Routine Unit := update listen

/-! ## Boot -/

def takePending (h : Host) : List ResourceId × Host :=
  (h.coordinator.pending, h.modifyCoordinator fun c => { c with pending := [] })

/-- Starts one resource unless a stop was triggered before its turn. -/
def startNext (r : ResourceId) : Routine (Except BootError Started) := do
  match ← read (·.trigger.reason) with
  | some reason => return .error (.interrupted (← read (·.resourceName r)) reason)
  | none => startResource r .coordinator (← read (·.coordinator.config.startupTimeoutMs))

/-- Starts resources in order, each ready before the next, up to the first that does not come up. -/
def startEach : List ResourceId → Routine (Except BootError Unit)
  | [] => return .ok ()
  | r :: rest => do
    match ← startNext r with
    | .ok s =>
      update fun h =>
        (h.modifyCoordinator fun c => { c with started := c.started ++ [s] }).record (.up s)
      startEach rest
    | .error e =>
      update fun h =>
        ((h.emit (.bootAborted e rest.length)).modifyCoordinator fun c =>
          { c with bootFailure := some e.resource }).record (.booted (.error e))
      return .error e

/-- Starts everything that was added. A boot that failed once fails for good; any other call but the first
does nothing. -/
def startAll : Routine (Except BootError Unit) := do
  match ← read (·.coordinator.bootFailure) with
  | some name => return .error (.alreadyFailed name)
  | none =>
    let phase ← read (·.coordinator.phase)
    if phase ≠ .notStarted then
      emit (.bootIgnored phase)
      return .ok ()
    else
      listenForSignals
      let pending ← act takePending
      emit (.bootBegun pending.length)
      match ← startEach pending with
      | .error e => return .error e
      | .ok () =>
        update fun h =>
          ((h.enter .running).emit (.bootDone pending.length)).record (.booted (.ok ()))
        return .ok ()

/-! ## Running -/

/-- Waits for a trigger and meanwhile hears of exits, of which a failing one is a trigger. Exits queued
behind the trigger are heard of too. -/
def awaitStop : Routine StopReason := do
  listenForSignals
  serve [.triggered, .exitQueued]
    (fun i h => if i = 0 then (h, true) else (h.hearExit, false))
    fun _ => do
      let reason ← read (·.trigger.reason)
      update fun h => h.hearExits.record .waited
      return reason.getD .requested

/-! ## Shutdown -/

/-- Waits for the start task of a resource that was closed. -/
def joinStart (s : Started) (name : String) (deadline : Instant) : Routine Failures := do
  match ← waitAny [.ended s.task, .due deadline] with
  | 0 =>
    match ← read (·.outcome? s.task) with
    | some (.returned _) =>
      emit (.resourceStopped name)
      return []
    | some (.panicked p) =>
      emit (.startTaskPanicked name)
      return [.failed name (Cause.ofPanic s.task p)]
    | _ => return []
  | _ =>
    update fun h => (h.abort s.task).emit (.stopTimedOut name)
    return [.timedOut name]

/-- Closes one resource and waits for its start task, both before the deadline. A resource that is not
closed cleanly has its start task aborted. -/
def closeResource (s : Started) (deadline : Instant) : Routine Failures := do
  let name ← read (·.resourceName s.resource)
  if ← read (·.isExpired deadline) then
    update fun h => (h.abort s.task).emit (.closeSkipped name)
    return [.skipped name]
  else
    update fun h => (h.emit (.closing name)).record (.close s)
    let result ← within deadline (runClose s.resource deadline)
    update (·.record (.closed s result))
    match result with
    | some (.ok ()) => joinStart s name deadline
    | some (.error .closed) => joinStart s name deadline
    | some (.error e) =>
      update fun h => (h.emit (.closeFailed name e)).abort s.task
      return [.failed name (.resource e)]
    | none =>
      update fun h => (h.emit (.closeTimedOut name)).abort s.task
      return [.timedOut name]

def closeEach (deadline : Instant) : List Started → Routine Failures
  | [] => return []
  | s :: rest => do
    let first ← closeResource s deadline
    update (·.record (.settled s))
    return first ++ (← closeEach deadline rest)

/-- With the drain over, takes the resources that are to be closed. -/
def takeStarted (drained : Failures) (h : Host) : List Started × Host :=
  (h.coordinator.started,
    (h.modifyCoordinator fun c => { c with started := [] }).record (.drained drained))

/-- What an exit adds to the failures of a shutdown. -/
def exitFailures (e : Exit) : Failures :=
  match e.result with
  | .ok () => []
  | .error .closed => []
  | .error err => [.failed e.resource (.resource err)]

/-- Takes the queued exits and reports the failing ones. -/
def reportExits (h : Host) : Failures × Host :=
  let report (h : Host) (e : Exit) : Host :=
    match e.result with
    | .ok () => h
    | .error .closed => h
    | .error err => h.emit (.stoppedWithError e.resource err)
  (h.exits.flatMap exitFailures, h.exits.foldl report { h with exits := [] })

/-- Enters the shutdown and gives its deadline. -/
def beginShutdown (reason : StopReason) (h : Host) : Instant × Host :=
  let h := ((h.fire reason).2.enter .shuttingDown).record .stopping
  let timeout := h.coordinator.config.shutdownTimeoutMs
  (h.now + timeout,
    h.emit (.shutdownBegun reason (.ofMillis timeout) h.registry.actions.length
      h.coordinator.started.length))

def endShutdown (failures : Failures) (h : Host) : Host :=
  ((h.enter .stopped).emit
    (if failures.isEmpty then .shutdownDone else .shutdownFailed failures)).record (.stopped failures)

/-- Drains the registry, then closes every started resource, within the configured time. Only the first
call does anything. -/
def shutdown (reason : StopReason) : Routine Failures := do
  let phase ← read (·.coordinator.phase)
  if phase = .shuttingDown ∨ phase = .stopped then
    emit (.shutdownIgnored phase)
    return []
  else
    let deadline ← act (beginShutdown reason)
    let drained ← drain deadline
    let started ← act (takeStarted drained)
    let closed ← closeEach deadline started
    let exited ← act reportExits
    let failures := drained ++ closed ++ exited
    update (endShutdown failures)
    return failures

/-! ## A whole run -/

/-- Boots, waits for a reason to stop, and shuts down. A failed boot is cleaned up after. -/
def run : Routine (Except RunError Unit) := do
  match ← startAll with
  | .error boot =>
    let reason := (← read (·.trigger.reason)).getD (.failed boot.resource)
    let failures ← shutdown reason
    if !failures.isEmpty then emit (.cleanupIncomplete failures)
    return .error (.boot boot)
  | .ok () =>
    let reason ← awaitStop
    let failures ← shutdown reason
    match ← read (·.coordinator.failure) with
    | some (name, e) => return .error (.resourceFailed name e)
    | none => return (Failures.toExcept failures).mapError .shutdown

/-- The coordinator is let go: its listener stops. -/
def release (h : Host) : Host :=
  match h.coordinator.listener with
  | some t => h.abort t
  | none => h

end ServiceHost.Lifecycle
