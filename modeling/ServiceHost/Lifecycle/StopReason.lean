import ServiceHost.Text.Quoted

/-! Why a service stops. -/

namespace ServiceHost.Lifecycle

inductive StopReason where
  /-- The interrupt signal. -/
  | interrupt
  /-- The terminate signal. -/
  | terminate
  /-- An explicit request. -/
  | requested
  /-- A running resource failed. -/
  | failed (resource : String)
deriving DecidableEq

namespace StopReason

def text : StopReason → String
  | interrupt => "interrupt signal"
  | terminate => "terminate signal"
  | requested => "shutdown requested"
  | failed resource => "resource `" ++ resource ++ "` failed"

/-- The form that diagnostics show. -/
def debug : StopReason → String
  | interrupt => "Interrupt"
  | terminate => "Terminate"
  | requested => "Requested"
  | failed resource => "ResourceFailed(" ++ Text.quoted resource ++ ")"

end StopReason

end ServiceHost.Lifecycle
