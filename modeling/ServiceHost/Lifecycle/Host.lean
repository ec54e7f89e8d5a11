import ServiceHost.Lifecycle.Event
import ServiceHost.Lifecycle.Metrics
import ServiceHost.Lifecycle.Readiness
import ServiceHost.Lifecycle.Registry
import ServiceHost.Lifecycle.Resource
import ServiceHost.Lifecycle.Trigger

/-! The state that everything in a service shares: the clock, the trigger, the registry, the resources, the
table of tasks and the coordinator's own records. Its operations are the atomic steps of the service. -/

namespace ServiceHost.Lifecycle

/-- The end of a start that had reported ready. -/
structure Exit where
  resource : String
  result : Except ResourceError Unit

/-- Who hears of the exits of a start task. -/
inductive Audience where
  | coordinator | direct
deriving DecidableEq

inductive Job where
  | start (resource : ResourceId) (audience : Audience)
  | action (action : Action) (deadline : Instant)
  | triggerLater (ms : Nat) (reason : StopReason)
  | listen
  /-- Someone outside sends a stop signal once every resource has started. -/
  | sendWhenRunning (signal : OsSignal)

inductive Outcome where
  | returned (result : Except Cause Unit)
  | panicked (payload : Payload)
  | aborted

/-- A task, kept in the table after it has ended. -/
structure Task where
  job : Job
  spawned : Instant
  readiness : Readiness := {}
  /-- A stop signal delivered to a listening task. -/
  signal : Option OsSignal := none
  /-- When and how the task ended. -/
  ended : Option (Instant × Outcome) := none

namespace Task

def outcome? (t : Task) : Option Outcome := t.ended.map (·.2)

def isAborted (t : Task) : Bool :=
  match t.outcome? with
  | some .aborted => true
  | _ => false

end Task

/-- A resource that reported ready, and its start task. -/
structure Started where
  resource : ResourceId
  task : TaskId
deriving DecidableEq

/-- What happened between the coordinator and the resources and actions in its care. -/
inductive Deed where
  | added (r : ResourceId)
  /-- The start of a resource was put on its task. -/
  | start (s : Started)
  /-- The resource came up: it reported ready, or its start returned without an error. -/
  | up (s : Started)
  | booted (result : Except BootError Unit)
  /-- The start on this task came back. -/
  | came (t : TaskId) (result : Except ResourceError Unit)
  /-- The coordinator was sent an exit. -/
  | exit (e : Exit)
  | accepted (a : Action)
  /-- The wait for a reason to stop was over. -/
  | waited
  | stopping
  | drained (failures : Failures)
  | close (s : Started)
  /-- The close of a resource came back, or was cut off at the deadline and gave nothing. -/
  | closed (s : Started) (result : Option (Except ResourceError Unit))
  /-- The coordinator was through with a resource. -/
  | settled (s : Started)
  | stopped (failures : Failures)

structure Coordinator where
  config : Config.Lifecycle
  phase : Phase := .notStarted
  /-- The phases entered so far, latest first. -/
  entered : List Phase := []
  pending : List ResourceId := []
  started : List Started := []
  /-- The first failure of a running resource. -/
  failure : Option (String × ResourceError) := none
  /-- The resource at which a boot ended. -/
  bootFailure : Option String := none
  listener : Option TaskId := none

inductive Note where
  | text (s : String)
  | event (e : Event)

structure Host where
  now : Instant := 0
  network : Net.Network := .isolated
  trigger : Trigger := {}
  registry : Registry := {}
  coordinator : Coordinator
  resources : List Resource := []
  tasks : List Task := []
  /-- Exits that the coordinator has not heard of yet. -/
  exits : List Exit := []
  directExits : List Exit := []
  /-- How many dials were made. -/
  dials : Nat := 0
  metrics : Metrics := {}
  /-- What was noted, and when. -/
  trace : List (Instant × Note) := []
  /-- What was done, and when, oldest first. No operation looks back at it. -/
  history : List (Instant × Deed) := []

namespace Host

def note (h : Host) (n : Note) : Host := { h with trace := h.trace ++ [(h.now, n)] }

def emit (h : Host) (e : Event) : Host := h.note (.event e)

def say (h : Host) (who text : String) : Host := h.note (.text (who ++ ":" ++ text))

def record (h : Host) (d : Deed) : Host := { h with history := h.history ++ [(h.now, d)] }

def modifyCoordinator (h : Host) (f : Coordinator → Coordinator) : Host :=
  { h with coordinator := f h.coordinator }

def enter (h : Host) (p : Phase) : Host :=
  h.modifyCoordinator fun c => { c with phase := p, entered := p :: c.entered }

/-- Fires the trigger and reports it. -/
def fire (h : Host) (reason : StopReason) : Bool × Host :=
  let (accepted, t) := h.trigger.fire reason
  let h := { h with trigger := t }
  (accepted, h.emit (if accepted then .triggered reason else .triggerIgnored reason))

def register (h : Host) (a : Action) : Except RegistryClosed Unit × Host :=
  match h.registry.register a with
  | .ok r =>
    (.ok (),
      ({ h with registry := r }.emit (.actionRegistered a.name h.registry.actions.length)).record
        (.accepted a))
  | .error e => (.error e, h.emit (.registrationRejected a.name))

/-- Closes the registry and takes its actions. -/
def closeRegistry (h : Host) : Option (List Action) × Host :=
  match h.registry.close with
  | (none, _) => (none, h.emit .drainIgnored)
  | (some actions, r) => (some actions, { h with registry := r })

def resource? (h : Host) (r : ResourceId) : Option Resource := h.resources[r]?

def resourceName (h : Host) (r : ResourceId) : String := ((h.resource? r).map (·.name)).getD ""

def modifyResource (h : Host) (r : ResourceId) (f : Resource → Resource) : Host :=
  { h with resources := h.resources.modify r f }

def task? (h : Host) (t : TaskId) : Option Task := h.tasks[t]?

def modifyTask (h : Host) (t : TaskId) (f : Task → Task) : Host :=
  { h with tasks := h.tasks.modify t f }

def spawn (h : Host) (job : Job) : TaskId × Host :=
  (h.tasks.length, { h with tasks := h.tasks ++ [⟨job, h.now, {}, none, none⟩] })

/-- Puts the start of a resource on a task. -/
def launch (h : Host) (r : ResourceId) (audience : Audience) : TaskId × Host :=
  let (t, h) := h.spawn (.start r audience)
  match audience with
  | .coordinator => (t, h.record (.start ⟨r, t⟩))
  | .direct => (t, h)

/-- Ends a task, once. -/
def finish (h : Host) (t : TaskId) (o : Outcome) : Host :=
  h.modifyTask t fun task =>
    if task.ended.isSome then task else { task with ended := some (h.now, o) }

/-- An aborted task takes no further step. -/
def abort (h : Host) (t : TaskId) : Host := h.finish t .aborted

def outcome? (h : Host) (t : TaskId) : Option Outcome := (h.task? t).bind Task.outcome?

def isEnded (h : Host) (t : TaskId) : Bool := (h.outcome? t).isSome

def isAborted (h : Host) (t : TaskId) : Bool := ((h.task? t).map Task.isAborted).getD false

def readiness (h : Host) (t : TaskId) : Option (Except ResourceError Unit) :=
  (h.task? t).bind (·.readiness.report)

def reportReady (h : Host) (t : TaskId) : Host :=
  h.modifyTask t fun task => { task with readiness := task.readiness.ready }

def addExit (h : Host) (audience : Audience) (e : Exit) : Host :=
  match audience with
  | .coordinator => { h with exits := h.exits ++ [e] }.record (.exit e)
  | .direct => { h with directExits := h.directExits ++ [e] }

/-- Settles a start: its result becomes the readiness report, or an exit when there was one before. -/
def settle (h : Host) (t : TaskId) (r : ResourceId) (audience : Audience)
    (result : Except ResourceError Unit) : Host :=
  match h.task? t with
  | none => h
  | some task =>
    let h := h.record (.came t result)
    match task.readiness.settle result with
    | (readiness, none) => h.modifyTask t fun task => { task with readiness }
    | (_, some result) => h.addExit audience ⟨h.resourceName r, result⟩

def remaining (h : Host) (deadline : Instant) : Nat := deadline - h.now

def isExpired (h : Host) (deadline : Instant) : Bool := deadline ≤ h.now

/-- Reports an exit; the first failure is recorded and triggers a stop. -/
def onExit (h : Host) (e : Exit) : Host :=
  match e.result with
  | .ok () => h.emit (.startReturned e.resource)
  | .error .closed => h.emit (.resourceClosed e.resource)
  | .error err =>
    let h := ((h.emit (.resourceFailed e.resource err)).fire (.failed e.resource)).2
    h.modifyCoordinator fun c => { c with failure := c.failure.orElse fun _ => some (e.resource, err) }

/-- Hears of the first queued exit. -/
def hearExit (h : Host) : Host :=
  match h.exits with
  | [] => h
  | e :: rest => { h with exits := rest }.onExit e

/-- Hears of all queued exits. -/
def hearExits (h : Host) : Host := h.exits.foldl onExit { h with exits := [] }

/-- Delivers a stop signal to the listening tasks. -/
def deliver (h : Host) (s : OsSignal) : Host :=
  { h with tasks := h.tasks.map fun t =>
      match t.job, t.ended, t.signal with
      | .listen, none, none => { t with signal := some s }
      | _, _, _ => t }

end Host

end ServiceHost.Lifecycle
