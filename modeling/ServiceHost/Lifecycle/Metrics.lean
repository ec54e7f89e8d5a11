/-! Counters of a service's life: starts and shutdown actions by outcome, and drains. -/

namespace ServiceHost.Lifecycle

inductive StartOutcome where
  | ready | failed | timedOut | interrupted
deriving DecidableEq

inductive ActionOutcome where
  | ok | failed | timedOut | skipped
deriving DecidableEq

def StartOutcome.label : StartOutcome → String
  | ready => "ready"
  | failed => "failed"
  | timedOut => "timed_out"
  | interrupted => "interrupted"

def ActionOutcome.label : ActionOutcome → String
  | ok => "ok"
  | failed => "failed"
  | timedOut => "timed_out"
  | skipped => "skipped"

/-- Everything recorded so far, in order. -/
structure Metrics where
  starts : List StartOutcome := []
  actions : List ActionOutcome := []
  drains : Nat := 0

namespace Metrics

def recordStart (m : Metrics) (o : StartOutcome) : Metrics := { m with starts := m.starts ++ [o] }

def recordAction (m : Metrics) (o : ActionOutcome) : Metrics :=
  { m with actions := m.actions ++ [o] }

def recordDrain (m : Metrics) : Metrics := { m with drains := m.drains + 1 }

/-- Every series that was used, with its count. -/
def series (m : Metrics) : List (String × Nat) :=
  let starts := [StartOutcome.ready, .failed, .timedOut, .interrupted].map fun o =>
    ("lifecycle_resource_starts_total\x7boutcome=" ++ o.label ++ "\x7d", m.starts.count o)
  let actions := [ActionOutcome.ok, .failed, .timedOut, .skipped].map fun o =>
    ("lifecycle_shutdown_actions_total\x7boutcome=" ++ o.label ++ "\x7d", m.actions.count o)
  let drains := [("lifecycle_shutdown_duration_seconds\x7b\x7d", m.drains)]
  (starts ++ actions ++ drains).filter (·.2 ≠ 0)

end Metrics

end ServiceHost.Lifecycle
