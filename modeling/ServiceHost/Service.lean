import ServiceHost.Config.Schema
import ServiceHost.Lifecycle.Scheduler

/-! The service as a whole: the resources that a configuration asks for, under one coordinator. -/

namespace ServiceHost

/-- The client comes up before the server, which needs it. -/
def Config.resources (c : Config) : List Lifecycle.Resource :=
  (if c.coordination.enabled then
    [.client (Coordination.ClientOptions.ofConfig c.coordination)]
  else []) ++ [.server (Http.ServerOptions.ofConfig c.server)]

namespace Service

open Lifecycle Routine

/-- The action that reports how long the service was up; it has nothing else to do. -/
def reportUptime : Action := { name := "report-uptime", body := [] }

/-- Adds everything to the coordinator and runs it. `signal` is sent from outside once all is started. -/
def routine (resources : Nat) (signal : Option OsSignal) : Routine (Except RunError Unit) := do
  update fun h => (List.range resources).foldl (fun h r => addResource r h) h
  let _ ← act (·.register reportUptime)
  match signal with
  | some s =>
    let _ ← spawn (.sendWhenRunning s)
    Lifecycle.run
  | none => Lifecycle.run

/-- A run of the service that ended. -/
structure Run where
  result : Except RunError Unit
  /-- What was reported on the way. -/
  events : List Event

/-- Runs the service; `none` when nothing ends it. -/
def run (network : Net.Network) (c : Config) (signal : Option OsSignal) : Option Run :=
  let resources := c.resources
  let host : Host := { network, coordinator := { config := c.lifecycle }, resources }
  match System.runAll (routine resources.length signal) { host } with
  | (s, some (.ok result)) =>
    let events := s.host.trace.filterMap fun n =>
      match n.2 with
      | .event e => some e
      | .text _ => none
    some { result, events }
  | _ => none

end Service

end ServiceHost
