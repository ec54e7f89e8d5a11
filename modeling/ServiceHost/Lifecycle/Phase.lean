/-! The phases of a service, passed through in this order. -/

namespace ServiceHost.Lifecycle

inductive Phase where
  | notStarted | running | shuttingDown | stopped
deriving DecidableEq

namespace Phase

def text : Phase → String
  | notStarted => "not_started"
  | running => "running"
  | shuttingDown => "shutting_down"
  | stopped => "stopped"

def debug : Phase → String
  | notStarted => "NotStarted"
  | running => "Running"
  | shuttingDown => "ShuttingDown"
  | stopped => "Stopped"

/-- Position in the order of phases. -/
def rank : Phase → Nat
  | notStarted => 0
  | running => 1
  | shuttingDown => 2
  | stopped => 3

end Phase

end ServiceHost.Lifecycle
