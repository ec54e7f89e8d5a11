import ServiceHost.Lifecycle.Scheduler

/-! A session: one coordinator, the handles that were taken from it, and commands that use them one after
another. -/

namespace ServiceHost.Lifecycle

open Routine

inductive Command where
  | add (r : ResourceId)
  | startAll
  | awaitStop
  | shutdown (reason : StopReason)
  | run
  | phase
  | debug (pretty : Bool)
  | watch
  | pollWatch (i : Nat)
  | register (name : String) (body : Script)
  | registry
  | drain (ms : Nat)
  | drainTwice (ms : Nat)
  | trigger (reason : StopReason)
  | triggerAfter (ms : Nat) (reason : StopReason)
  | triggerInfo
  | awaitTrigger
  | subscribe
  | pollSubscription (i : Nat)
  | unsubscribe (i : Nat)
  | startDirect (r : ResourceId) (timeoutMs : Nat)
  | exits
  | joinDirect (j ms : Nat)
  | closeDirect (r : ResourceId) (ms : Nat)
  | newContext (ms : Nat)
  | contextInfo
  | contextSleep (ms : Nat)
  | sleep (ms : Nat)
  | raise (s : OsSignal)
  | connection (r : ResourceId)
  | bound (r : ResourceId)
  | disconnects (n : Nat)
  | request (r : ResourceId)

inductive Answer where
  | ok
  /-- The coordinator or the handle is gone. -/
  | gone
  | cancelled
  | panicked (p : Payload)
  | flag (b : Bool)
  | count (n : Nat)
  | text (s : String)
  | phase (p : Phase)
  | reason (r : StopReason)
  | bootError (e : BootError)
  | runError (e : RunError)
  | resourceError (e : ResourceError)
  | closedError (e : RegistryClosed)
  | failures (fs : Failures)
  | both (first second : Answer)
  /-- `none` when the coordinator is gone and nothing can change any more. -/
  | watched (changed : Option Bool) (p : Phase)
  | subscribed (changed : Bool) (reason : Option StopReason)
  | registry (r : Registry)
  | trigger (t : Trigger) (receivers : Nat)
  | started (name : String) (task : TaskId)
  | exits (es : List Exit)
  | pending
  | finished
  | joinError (text : String)
  | context (remaining : Duration) (expired : Bool)
  | connection (endpoint : Option String)
  | bound (ip : Option Net.Ip)
  | refused

structure Session where
  system : System
  gone : Bool := false
  /-- How many phases each watcher has seen. -/
  watchers : List Nat := []
  /-- The trigger version each subscriber has seen, `none` once it left. -/
  subscribers : List (Option Nat) := []
  /-- Start tasks of resources started without the coordinator. -/
  directs : List (Option TaskId) := []
  deadline : Option Instant := none

namespace Coordinator

def debug (c : Coordinator) (r : Registry) : String :=
  "Coordinator \x7b state: " ++ c.phase.debug ++ ", pending: " ++ toString c.pending.length ++
    ", started: " ++ toString c.started.length ++ ", registry: " ++ r.debug ++ " \x7d"

/-- The same on several lines. -/
def debugLines (c : Coordinator) (r : Registry) : String :=
  "\n".intercalate
    ["Coordinator \x7b",
      "    state: " ++ c.phase.debug ++ ",",
      "    pending: " ++ toString c.pending.length ++ ",",
      "    started: " ++ toString c.started.length ++ ",",
      "    registry: ShutdownRegistry \x7b",
      "        pending: " ++ toString r.actions.length ++ ",",
      "        closed: " ++ toString r.closed ++ ",",
      "    \x7d,",
      "\x7d"]

end Coordinator

namespace Answer

def ofFailures (fs : Failures) : Answer := if fs.isEmpty then .ok else .failures fs

def ofExcept {ε α : Type} (f : ε → Answer) (g : α → Answer) : Except ε α → Answer
  | .ok a => g a
  | .error e => f e

end Answer

namespace Session

def new (network : Net.Network) (config : Config.Lifecycle) (resources : List Resource) : Session :=
  { system := { host := { network, coordinator := { config }, resources } } }

def host (s : Session) : Host := s.system.host

/-- Live subscribers of the trigger: those of the session and the tasks that wait for it. -/
def receivers (s : Session) : Nat :=
  (s.subscribers.filter (·.isSome)).length +
    (s.system.suspended.filter fun t => t.2.signals.any Signal.isTriggered).length

/-- How long a raised signal is given to reach its listener. -/
def signalGrace : Nat := 20

/-- How long closed connections are waited for. -/
def disconnectGrace : Nat := 400

/-- Connections hung up so far. -/
def hungUp (h : Host) : Nat :=
  (h.trace.filter fun n =>
    match n.2 with
    | .event (.disconnected ..) => true
    | _ => false).length

/-- Commands that the coordinator itself must carry out. -/
def needsCoordinator : Command → Bool
  | .add _ | .startAll | .awaitStop | .shutdown _ | .run | .debug _ | .watch => true
  | _ => false

/-- Commands that can be dropped before they end; all others are waited for. -/
def canBeDropped : Command → Bool
  | .startAll | .awaitStop | .shutdown _ | .run | .drain _ | .drainTwice _ | .awaitTrigger
  | .startDirect .. => true
  | _ => false

/-- What a command does on the host. Handles that it makes or uses are kept up by `step`. -/
def routine (s : Session) : Command → Routine Answer
  | .add r => do
    if (← read (·.resource? r)).isNone then return .gone
    update (addResource r)
    return .ok
  | .startAll => return .ofExcept .bootError (fun _ => .ok) (← startAll)
  | .awaitStop => return .reason (← awaitStop)
  | .shutdown reason => return .ofFailures (← Lifecycle.shutdown reason)
  | .run => return .ofExcept .runError (fun _ => .ok) (← Lifecycle.run)
  | .phase => return .phase (← read (·.coordinator.phase))
  | .debug pretty =>
    read fun h =>
      .text (if pretty then h.coordinator.debugLines h.registry else h.coordinator.debug h.registry)
  | .watch => return .count s.watchers.length
  | .pollWatch i =>
    match s.watchers[i]? with
    | none => return .gone
    | some seen =>
      read fun h =>
        .watched (if s.gone then none else some (seen < h.coordinator.entered.length))
          h.coordinator.phase
  | .register name body =>
    return .ofExcept .closedError (fun _ => .ok) (← act (·.register { name, body }))
  | .registry => return .registry (← read (·.registry))
  | .drain ms => return .ofFailures (← drain (← read (·.now + ms)))
  | .drainTwice ms => do
    let deadline ← read (·.now + ms)
    let (first, second) ← beside (drain deadline) (drain deadline)
    return .both (.ofFailures first) (.ofFailures second)
  | .trigger reason => return .flag (← act (·.fire reason))
  | .triggerAfter ms reason => do
    let _ ← spawn (.triggerLater ms reason)
    return .ok
  | .triggerInfo => return .trigger (← read (·.trigger)) s.receivers
  | .awaitTrigger => return .reason (← awaitTrigger .requested)
  | .subscribe => return .count s.subscribers.length
  | .pollSubscription i =>
    match s.subscribers[i]? with
    | some (some seen) => read fun h => .subscribed (seen < h.trigger.version) h.trigger.reason
    | _ => return .gone
  | .unsubscribe i =>
    match s.subscribers[i]? with
    | some (some _) => return .ok
    | _ => return .gone
  | .startDirect r timeoutMs => do
    match ← read (·.resource? r) with
    | none => return .gone
    | some resource =>
      return .ofExcept .bootError (fun st => .started resource.name st.task)
        (← startResource r .direct timeoutMs)
  | .exits => return .exits (← act fun h => (h.directExits, { h with directExits := [] }))
  | .joinDirect j ms =>
    match s.directs[j]? with
    | some (some t) => do
      let deadline ← read (·.now + ms)
      match ← waitAny [.ended t, .due deadline] with
      | 0 =>
        match ← read (·.outcome? t) with
        | some (.panicked p) => return .joinError (Cause.ofPanic t p).message
        | some .aborted => return .joinError ("task " ++ toString t ++ " was cancelled")
        | _ => return .finished
      | _ => return .pending
    | _ => return .gone
  | .closeDirect r ms => do
    match ← read (·.resource? r) with
    | none => return .gone
    | some _ =>
      return .ofExcept .resourceError (fun _ => .ok) (← runClose r (← read (·.now + ms)))
  | .newContext _ => return .flag true
  | .contextInfo =>
    match s.deadline with
    | none => return .gone
    | some d => read fun h => .context (.ofMillis (h.remaining d)) (h.isExpired d)
  | .contextSleep ms =>
    match s.deadline with
    | none => return .gone
    | some d => return .flag (← within d (sleep ms)).isSome
  | .sleep ms => do
    sleep ms
    return .ok
  | .raise signal => do
    update (·.deliver signal)
    sleep signalGrace
    return .ok
  | .connection r => do
    match (← read (·.resource? r)).bind (·.client?) with
    | none => return .gone
    | some c => return .connection c.connection
  | .bound r => do
    match (← read (·.resource? r)).bind (·.server?) with
    | none => return .gone
    | some server => return .bound server.localIp
  | .disconnects n => do
    if (← read hungUp) < n then sleep disconnectGrace
    return .count (← read hungUp)
  | .request r => do
    match (← read (·.resource? r)).bind (·.server?) with
    | some server => return if server.localIp.isSome then .refused else .gone
    | none => return .gone

/-- Brings the handles up to date with a command that was carried out. -/
def track (s : Session) (c : Command) (a : Answer) : Session :=
  match c, a with
  | .run, _ => { s with gone := true, system := s.system.update release }
  | .watch, _ => { s with watchers := s.watchers ++ [s.host.coordinator.entered.length] }
  | .pollWatch i, _ =>
    { s with watchers := s.watchers.set i s.host.coordinator.entered.length }
  | .subscribe, _ => { s with subscribers := s.subscribers ++ [some s.host.trigger.version] }
  | .pollSubscription i, .subscribed .. =>
    { s with subscribers := s.subscribers.set i (some s.host.trigger.version) }
  | .unsubscribe i, .ok => { s with subscribers := s.subscribers.set i none }
  | .startDirect .., .started _ t => { s with directs := s.directs ++ [some t] }
  | .joinDirect j _, .finished => { s with directs := s.directs.set j none }
  | .joinDirect j _, .joinError _ => { s with directs := s.directs.set j none }
  | .newContext ms, _ => { s with deadline := some (s.host.now + ms) }
  | _, _ => s

/-- Runs a command to its end, or drops it, if that can be done, when it takes longer than `cancelAfter`
milliseconds. -/
def perform (s : Session) (c : Command) (cancelAfter : Option Nat) : Session × Answer :=
  let bounded : Routine Answer :=
    match if canBeDropped c then cancelAfter else none with
    | none => s.routine c
    | some ms => do
      let deadline ← read (·.now + ms)
      return (← within deadline (s.routine c)).getD .cancelled
  let (system, result) := s.system.runAll bounded
  let answer :=
    match result with
    | some (.ok a) => a
    | some (.error p) => .panicked p
    | none => .cancelled
  (track { s with system } c answer, answer)

/-- Carries out one command; also gives what was noted meanwhile. -/
def step (s : Session) (c : Command) (cancelAfter : Option Nat) :
    Session × Answer × List (Instant × Note) :=
  if s.gone && needsCoordinator c then (s, .gone, [])
  else
    let (s', answer) := s.perform c cancelAfter
    (s', answer, s'.host.trace.drop s.host.trace.length)

end Session

end ServiceHost.Lifecycle
