import ServiceHost.Lifecycle.StopReason

/-! The shutdown trigger: the first reason wins and is remembered. -/

namespace ServiceHost.Lifecycle

structure Trigger where
  reason : Option StopReason := none

namespace Trigger

/-- Records a reason unless there is one; tells whether it was recorded. -/
def fire (t : Trigger) (reason : StopReason) : Bool × Trigger :=
  match t.reason with
  | none => (true, ⟨some reason⟩)
  | some _ => (false, t)

def isTriggered (t : Trigger) : Bool := t.reason.isSome

/-- How often the reason has changed. -/
def version (t : Trigger) : Nat := if t.isTriggered then 1 else 0

def debug (t : Trigger) : String :=
  let reason :=
    match t.reason with
    | none => "None"
    | some r => "Some(" ++ r.debug ++ ")"
  "Shutdown \x7b reason: " ++ reason ++ " \x7d"

end Trigger

end ServiceHost.Lifecycle
