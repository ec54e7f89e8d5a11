import ServiceHost.Lifecycle.Routine

/-! Draining the registry: its actions run in order, one at a time, each on a task of its own, until the
deadline. Every failure is collected and none stops the next action. -/

namespace ServiceHost.Lifecycle

open Routine

/-- Skips actions whose turn comes after the deadline. -/
def skipActions : List Action → Routine Failures
  | [] => return []
  | a :: rest => do
    update fun h =>
      { h with metrics := h.metrics.recordAction .skipped }.emit (.actionSkipped a.name)
    return .skipped a.name :: (← skipActions rest)

/-- Accounts for an action that has ended. -/
def recordOutcome (a : Action) (t : TaskId) : Outcome → Routine Failures
  | .returned (.ok ()) => do
    update fun h => { h with metrics := h.metrics.recordAction .ok }.emit (.actionDone a.name)
    return []
  | .returned (.error cause) => do
    update fun h =>
      { h with metrics := h.metrics.recordAction .failed }.emit (.actionFailed a.name cause)
    return [.failed a.name cause]
  | .panicked p => do
    let cause := Cause.ofPanic t p
    update fun h =>
      { h with metrics := h.metrics.recordAction .failed }.emit (.actionPanicked a.name cause)
    return [.failed a.name cause]
  | .aborted => do
    let cause := Cause.text ("task " ++ toString t ++ " was cancelled")
    update fun h =>
      { h with metrics := h.metrics.recordAction .failed }.emit (.actionPanicked a.name cause)
    return [.failed a.name cause]

/-- Runs one action on a task and waits for it; at the deadline the task is aborted. -/
def runAction (a : Action) (deadline : Instant) : Routine Failures := do
  match a.callPanics with
  | some p => .panic p
  | none =>
    let t ← spawn (.action a deadline)
    match ← waitAny [.ended t, .due deadline] with
    | 0 =>
      match ← read (·.outcome? t) with
      | some o => recordOutcome a t o
      | none => return []
    | _ =>
      update fun h =>
        { h.abort t with metrics := h.metrics.recordAction .timedOut }.emit (.actionTimedOut a.name)
      return [.timedOut a.name]

def runActions (deadline : Instant) : List Action → Routine Failures
  | [] => return []
  | a :: rest => do
    if ← read (·.isExpired deadline) then skipActions (a :: rest)
    else
      let first ← runAction a deadline
      return first ++ (← runActions deadline rest)

/-- Only the first drain runs actions; it closes the registry before anything else. -/
def drain (deadline : Instant) : Routine Failures := do
  match ← act (·.closeRegistry) with
  | none => return []
  | some actions =>
    update fun h => h.emit (.drainBegun actions.length (h.remaining deadline))
    let failures ← runActions deadline actions
    update fun h =>
      { h with metrics := h.metrics.recordDrain }.emit (.drainDone actions.length failures.length)
    return failures

end ServiceHost.Lifecycle
