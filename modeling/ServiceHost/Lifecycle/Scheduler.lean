import ServiceHost.Lifecycle.Coordinator

/-! Running routines on one thread. A task that can go on is queued and runs, in turn, until it waits. The
caller's own routine goes on when the queue is empty, and time moves only when nothing else can, straight
to the next point that something waits for. -/

namespace ServiceHost.Lifecycle

namespace Routine

/-- The signals at which a routine stands. -/
def signals {α : Type} : Routine α → List Signal
  | wait s _ => s
  | serve s _ _ => s
  | _ => []

/-- Whether a routine can go on. -/
def isAwake {α : Type} (h : Host) : Routine α → Bool
  | wait s _ => (Signal.first? h s).isSome
  | serve s _ _ => (Signal.first? h s).isSome
  | _ => true

end Routine

structure System where
  host : Host
  /-- Tasks that have not ended, with what they still have to do. -/
  suspended : List (TaskId × Routine Unit) := []
  queue : List TaskId := []
  /-- How many tasks of the table were taken over. -/
  adopted : Nat := 0

namespace System

/-- Takes over the tasks that were spawned since. Each is queued, even if it begins by waiting. -/
def adopt (s : System) : System :=
  let fresh := (s.host.tasks.drop s.adopted).mapIdx fun i task =>
    (s.adopted + i, task.job.routine (s.adopted + i))
  { s with
    suspended := s.suspended ++ fresh
    queue := s.queue ++ fresh.map (·.1)
    adopted := s.host.tasks.length }

/-- Queues the tasks that can go on, or that were aborted and only have to be dropped. -/
def wake (s : System) : System :=
  let woken := s.suspended.filterMap fun (t, r) =>
    if !s.queue.contains t && (r.isAwake s.host || s.host.isAborted t) then some t else none
  { s with queue := s.queue ++ woken }

def update (s : System) (f : Host → Host) : System := ({ s with host := f s.host }.adopt).wake

/-- Handles signals of a server until none holds or a handler says stop, at most `rounds` times. -/
def serveNow (signals : List Signal) (handle : Nat → Host → Host × Bool) :
    Nat → System → System × Option Nat
  | 0, s => (s, none)
  | rounds + 1, s =>
    match Signal.first? s.host signals with
    | none => (s, none)
    | some i =>
      let stop := (handle i s.host).2
      let s := s.update fun h => (handle i h).1
      if stop then (s, some i) else serveNow signals handle rounds s

/-- Runs a routine until it waits for something that does not hold, or ends. -/
def advance {α : Type} : Routine α → System → System × Routine α
  | .done a, s => (s, .done a)
  | .panic p, s => (s, .panic p)
  | .step f next, s => advance (next s.host) (s.update f)
  | .wait signals next, s =>
    match Signal.first? s.host signals with
    | some i => advance (next i) s
    | none => (s, .wait signals next)
  | .serve signals handle next, s =>
    match serveNow signals handle (s.host.exits.length + 1) s with
    | (s, some i) => advance (next i) s
    | (s, none) => (s, .serve signals handle next)

/-- Gives a task its turn. -/
def runTask (s : System) (t : TaskId) : System :=
  match s.suspended.lookup t with
  | none => s
  | some r =>
    let s := { s with suspended := s.suspended.filter (·.1 ≠ t) }
    if s.host.isAborted t then s
    else
      match advance r s with
      | (s, .done ()) => s
      | (s, .panic _) => s
      | (s, r) => { s with suspended := s.suspended ++ [(t, r)] }

/-- Gives up to so many queued tasks their turn. -/
def runTasks : Nat → System → System
  | 0, s => s
  | turns + 1, s =>
    match s.queue with
    | [] => s
    | t :: rest => runTasks turns (runTask { s with queue := rest } t)

/-- The next point in time that something waits for. -/
def nextDue (s : System) (signals : List Signal) : Option Instant :=
  let all := signals ++ s.suspended.flatMap (·.2.signals)
  let points := all.filterMap fun
    | .due t => if s.host.now < t then some t else none
    | _ => none
  points.min?

/-- How many turns tasks may have in a row before the caller is looked at again. -/
def turnLimit : Nat := 61

/-- Runs a routine to its end, together with the tasks; `none` when nothing can ever go on. -/
def run {α : Type} : Nat → Routine α → System → System × Option (Except Payload α)
  | 0, _, s => (s, none)
  | rounds + 1, r, s =>
    match advance r s with
    | (s, .done a) => (s, some (.ok a))
    | (s, .panic p) => (s, some (.error p))
    | (s, r) =>
      let s := runTasks turnLimit s
      if r.isAwake s.host || !s.queue.isEmpty then run rounds r s
      else
        match s.nextDue r.signals with
        | some t => run rounds r (s.update fun h => { h with now := t })
        | none => (s, none)

end System

/-! ## How long a run can take -/

mutual

/-- An upper bound on the waits that an instruction leads to. -/
def Instruction.weight : Instruction → Nat
  | .register _ body => weightOf body + 4
  | _ => 2

def weightOf : List Instruction → Nat
  | [] => 0
  | i :: rest => i.weight + weightOf rest

end

/-- The weights of all items together. -/
def total {α : Type} (weight : α → Nat) (xs : List α) : Nat := xs.foldr (fun a n => weight a + n) 0

def Action.weight (a : Action) : Nat := weightOf a.body + 4

def Resource.weight (r : Resource) : Nat :=
  match r.kind with
  | .scripted s => weightOf s.prelude + weightOf s.start + weightOf s.close + 8
  | .server _ => 16
  | .client c => 4 * c.options.endpoints.length + 16

def Host.resourceWeight (h : Host) (r : ResourceId) : Nat :=
  ((h.resource? r).map Resource.weight).getD 0

def Host.jobWeight (h : Host) : Job → Nat
  | .action a _ => a.weight
  | .start r _ => h.resourceWeight r
  | _ => 8

def Host.weight (h : Host) : Nat :=
  total Action.weight h.registry.actions + total Resource.weight h.resources +
    total h.resourceWeight h.coordinator.pending + total (fun t => h.jobWeight t.job) h.tasks +
    h.exits.length

/-- Runs a routine for as long as it can take. -/
def System.runAll {α : Type} (r : Routine α) (s : System) : System × Option (Except Payload α) :=
  s.run (16 * s.host.weight + 256) r

end ServiceHost.Lifecycle
