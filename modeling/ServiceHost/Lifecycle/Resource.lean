import ServiceHost.Coordination.Options
import ServiceHost.Http.Options
import ServiceHost.Lifecycle.Script
import ServiceHost.Net.Network

/-! Resources: the long-lived parts of a service, each with a start and a close. -/

namespace ServiceHost.Lifecycle

/-- Resources, tasks and points in time (milliseconds) are numbered. -/
abbrev ResourceId := Nat
abbrev TaskId := Nat
abbrev Instant := Nat

/-- A resource whose start and close are scripts. `prelude` runs while the start is being called. -/
structure Scripted where
  prelude : Script := []
  start : Script := []
  close : Script := []
  closeRequested : Bool := false

/-- An HTTP server and how far it has come. -/
structure Server where
  options : Http.ServerOptions
  closeRequested : Bool := false
  /-- Set from the moment the listener is bound. -/
  serving : Bool := false
  stopped : Bool := false
  localIp : Option Net.Ip := none
  /-- Requests in flight. -/
  inFlight : Nat := 0

/-- A client of the coordination service and the endpoint it is connected to. -/
structure Client where
  options : Coordination.ClientOptions
  connection : Option String := none

inductive Kind where
  | scripted (s : Scripted)
  | server (s : Server)
  | client (c : Client)

structure Resource where
  name : String
  kind : Kind

namespace Resource

def scripted (name : String) (s : Scripted) : Resource := ⟨name, .scripted s⟩

def server (o : Http.ServerOptions) : Resource := ⟨o.name, .server { options := o }⟩

def client (o : Coordination.ClientOptions) : Resource := ⟨o.name, .client { options := o }⟩

def server? (r : Resource) : Option Server :=
  match r.kind with
  | .server s => some s
  | _ => none

def client? (r : Resource) : Option Client :=
  match r.kind with
  | .client c => some c
  | _ => none

def isCloseRequested (r : Resource) : Bool :=
  match r.kind with
  | .scripted s => s.closeRequested
  | .server s => s.closeRequested
  | .client _ => false

def requestClose (r : Resource) : Resource :=
  match r.kind with
  | .scripted s => { r with kind := .scripted { s with closeRequested := true } }
  | .server s => { r with kind := .server { s with closeRequested := true } }
  | .client _ => r

def mapServer (f : Server → Server) (r : Resource) : Resource :=
  match r.kind with
  | .server s => { r with kind := .server (f s) }
  | _ => r

def mapClient (f : Client → Client) (r : Resource) : Resource :=
  match r.kind with
  | .client c => { r with kind := .client (f c) }
  | _ => r

end Resource

end ServiceHost.Lifecycle
