import ServiceHost.Lifecycle.Host

/-! Routines: what a task does. A routine takes atomic steps on the host, waits for one of several signals,
and ends with a result or a panic. Between a wait and the next nothing else happens to the host. -/

namespace ServiceHost.Lifecycle

/-- A condition on the host that a routine can wait for. -/
inductive Signal where
  /-- The clock has reached this point. -/
  | due (t : Instant)
  | triggered
  /-- Every resource has started. -/
  | running
  /-- The start reported, or its task ended and will not. -/
  | reported (t : TaskId)
  | ended (t : TaskId)
  | exitQueued
  | closeRequested (r : ResourceId)
  /-- The server was asked to close and no request is in flight. -/
  | idle (r : ResourceId)
  | serverStopped (r : ResourceId)
  | delivered (t : TaskId)

namespace Signal

def holds (h : Host) : Signal → Bool
  | due t => t ≤ h.now
  | triggered => h.trigger.isTriggered
  | running => h.coordinator.phase = .running
  | reported t => (h.readiness t).isSome || h.isEnded t
  | ended t => h.isEnded t
  | exitQueued => !h.exits.isEmpty
  | closeRequested r => ((h.resource? r).map (·.isCloseRequested)).getD false
  | idle r =>
    (((h.resource? r).bind (·.server?)).map fun s => s.closeRequested && s.inFlight = 0).getD false
  | serverStopped r => (((h.resource? r).bind (·.server?)).map (·.stopped)).getD false
  | delivered t => ((h.task? t).bind (·.signal)).isSome

/-- The first signal that holds. -/
def first? (h : Host) (signals : List Signal) : Option Nat := signals.findIdx? (·.holds h)

def isTriggered : Signal → Bool
  | triggered => true
  | _ => false

end Signal

inductive Routine (α : Type) where
  | done (a : α)
  | panic (p : Payload)
  /-- One atomic step. What follows may look at the host before it. -/
  | step (f : Host → Host) (next : Host → Routine α)
  /-- Waits for one of the signals and goes on with its position. -/
  | wait (signals : List Signal) (next : Nat → Routine α)
  /-- Waits for one of the signals, handles it, and waits again until a handler says stop. -/
  | serve (signals : List Signal) (handle : Nat → Host → Host × Bool) (next : Nat → Routine α)

namespace Routine

def bind {α β : Type} : Routine α → (α → Routine β) → Routine β
  | done a, k => k a
  | panic p, _ => panic p
  | step f next, k => step f fun h => (next h).bind k
  | wait s next, k => wait s fun i => (next i).bind k
  | serve s handle next, k => serve s handle fun i => (next i).bind k

instance : Monad Routine where
  pure := done
  bind := bind

/-- Changes the host and gives what the change computes from it. -/
def act {β : Type} (f : Host → β × Host) : Routine β := step (fun h => (f h).2) fun h => done (f h).1

def update (f : Host → Host) : Routine Unit := step f fun _ => done ()

def read {β : Type} (f : Host → β) : Routine β := step id fun h => done (f h)

def emit (e : Event) : Routine Unit := update (·.emit e)

def say (who text : String) : Routine Unit := update (·.say who text)

def spawn (job : Job) : Routine TaskId := act (·.spawn job)

/-- Waits for the first of the signals and gives its position. -/
def waitAny (signals : List Signal) : Routine Nat := wait signals done

def waitFor (s : Signal) : Routine Unit := wait [s] fun _ => done ()

/-- Waits for ever. -/
def hang {α : Type} : Routine α := wait [] fun _ => panic .unknown

def sleep (ms : Nat) : Routine Unit := do
  let t ← read (·.now + ms)
  waitFor (.due t)

/-- Runs a routine until the deadline and gives `none` when it is cut off there. A routine that can go on at
the deadline does so. -/
def within {α : Type} (deadline : Instant) : Routine α → Routine (Option α)
  | done a => done (some a)
  | panic p => panic p
  | step f next => step f fun h => (next h).within deadline
  | wait s next =>
    wait (s ++ [.due deadline]) fun i =>
      if i < s.length then (next i).within deadline else done none
  | serve s handle next =>
    serve (s ++ [.due deadline]) (fun i h => if i < s.length then handle i h else (h, true)) fun i =>
      if i < s.length then (next i).within deadline else done none

/-- Turns a panic into a result. -/
def attempt {α : Type} : Routine α → Routine (Except Payload α)
  | done a => done (.ok a)
  | panic p => done (.error p)
  | step f next => step f fun h => (next h).attempt
  | wait s next => wait s fun i => (next i).attempt
  | serve s handle next => serve s handle fun i => (next i).attempt

/-- Runs `other`, which does not wait, as soon as the routine waits or ends. -/
def beside {α β : Type} (other : Routine β) : Routine α → Routine (α × β)
  | done a => other.bind fun b => done (a, b)
  | panic p => panic p
  | step f next => step f fun h => beside other (next h)
  | wait s next => other.bind fun b => wait s fun i => (next i).bind fun a => done (a, b)
  | serve s handle next =>
    other.bind fun b => serve s handle fun i => (next i).bind fun a => done (a, b)

end Routine

end ServiceHost.Lifecycle
