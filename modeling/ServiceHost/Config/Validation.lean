import ServiceHost.Config.Schema
import ServiceHost.Net.SocketAddress

/-! Checks on a configuration that was read: addresses are addresses and limits are positive. All problems
are reported, in the order of the fields. -/

namespace ServiceHost.Config

/-- A problem with one field. -/
structure Problem where
  field : String
  message : String
deriving DecidableEq

def Problem.text (p : Problem) : String := p.field ++ ": " ++ p.message

def Problem.listText (ps : List Problem) : String := ", ".intercalate (ps.map Problem.text)

def checkAddress (field value : String) : List Problem :=
  match Net.SocketAddress.ofString? value with
  | some _ => []
  | none => [⟨field, "invalid address `" ++ value ++ "`: invalid socket address syntax"⟩]

def checkPositive (field : String) (n : Nat) : List Problem :=
  if n = 0 then [⟨field, "must be greater than 0"⟩] else []

/-- A host, which may be any name, and a port, separated by the last colon. -/
def isEndpoint (s : String) : Bool :=
  match Net.splitLastColon s.toList with
  | some (host, port) => !host.isEmpty && (Net.port? port).isSome
  | none => false

def checkEndpoint (field value : String) : List Problem :=
  if isEndpoint value then [] else [⟨field, "expected host:port, got `" ++ value ++ "`"⟩]

def checkEndpoints (endpoints : List String) : List Problem :=
  (endpoints.mapIdx fun i e =>
    checkEndpoint ("coordination.endpoints[" ++ toString i ++ "]") e).flatten

def Server.problems (s : Server) : List Problem :=
  checkAddress "server.bind_address" s.bindAddress ++
    checkPositive "server.request_timeout_secs" s.requestTimeoutSecs ++
    checkPositive "server.max_body_bytes" s.maxBodyBytes

/-- A client that is not enabled has no problems. -/
def Coordination.problems (c : Coordination) : List Problem :=
  if !c.enabled then []
  else
    (if c.endpoints.isEmpty then
      [⟨"coordination.endpoints", "at least one endpoint is required when coordination is enabled"⟩]
    else []) ++
    checkEndpoints c.endpoints ++
    checkPositive "coordination.dial_timeout_secs" c.dialTimeoutSecs

def Lifecycle.problems (c : Lifecycle) : List Problem :=
  checkPositive "lifecycle.shutdown_timeout_ms" c.shutdownTimeoutMs ++
    checkPositive "lifecycle.startup_timeout_ms" c.startupTimeoutMs

def Observability.problems (c : Observability) : List Problem :=
  if c.metricsEnabled then checkAddress "observability.metrics_address" c.metricsAddress else []

end Config

def Config.problems (c : Config) : List Config.Problem :=
  c.server.problems ++ c.coordination.problems ++ c.lifecycle.problems ++ c.observability.problems

end ServiceHost
