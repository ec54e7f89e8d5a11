import ServiceHost.Lifecycle.Script

/-! The registry of shutdown actions: a list that grows until it is closed, and is handed out once. -/

namespace ServiceHost.Lifecycle

structure Registry where
  actions : List Action := []
  closed : Bool := false

namespace Registry

def register (r : Registry) (a : Action) : Except RegistryClosed Registry :=
  if r.closed then .error ⟨a.name⟩ else .ok { r with actions := r.actions ++ [a] }

/-- Closes the registry and hands out its actions; `none` when it was closed before. -/
def close (r : Registry) : Option (List Action) × Registry :=
  if r.closed then (none, r) else (some r.actions, ⟨[], true⟩)

def debug (r : Registry) : String :=
  "ShutdownRegistry \x7b pending: " ++ toString r.actions.length ++ ", closed: " ++
    toString r.closed ++ " \x7d"

end Registry

end ServiceHost.Lifecycle
