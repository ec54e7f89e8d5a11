import ServiceHost.Duration

/-! The configuration of a service, in four sections. Every field has a default. -/

namespace ServiceHost.Config

structure Server where
  bindAddress : String := "0.0.0.0:8080"
  requestTimeoutSecs : Nat := 30
  maxBodyBytes : Nat := 2097152
deriving DecidableEq

structure Coordination where
  enabled : Bool := false
  /-- Tried in order. -/
  endpoints : List String := ["127.0.0.1:2379"]
  dialTimeoutSecs : Nat := 5
deriving DecidableEq

structure Lifecycle where
  /-- Bounds the whole shutdown. -/
  shutdownTimeoutMs : Nat := 5000
  /-- Bounds the wait for each resource. -/
  startupTimeoutMs : Nat := 10000
  handleSignals : Bool := true
deriving DecidableEq

inductive LogFormat where
  | pretty | json
deriving DecidableEq

structure Observability where
  logLevel : String := "info"
  logFormat : LogFormat := .pretty
  metricsEnabled : Bool := false
  metricsAddress : String := "0.0.0.0:9090"
deriving DecidableEq

namespace Lifecycle

def shutdownTimeout (c : Lifecycle) : Duration := .ofMillis c.shutdownTimeoutMs

def startupTimeout (c : Lifecycle) : Duration := .ofMillis c.startupTimeoutMs

end Lifecycle

end ServiceHost.Config

namespace ServiceHost

structure Config where
  server : Config.Server := {}
  coordination : Config.Coordination := {}
  lifecycle : Config.Lifecycle := {}
  observability : Config.Observability := {}
deriving DecidableEq

end ServiceHost
