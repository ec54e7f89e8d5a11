import ServiceHost.Config.Document
import ServiceHost.Config.Schema

/-! Reading a configuration out of a document. A section is a table, or an array that gives its first fields
in order. Missing fields take their defaults, unknown ones are ignored, and a field of the wrong kind makes
the whole document unreadable. -/

namespace ServiceHost.Config

namespace Document

/-- The field of a section by its key and position. -/
def field? (d : Document) (position : Nat) (key : String) : Option Document :=
  match d with
  | .table members => (members.find? (·.1 == key)).map (·.2)
  | .array items => items[position]?
  | _ => none

/-- A table, or an array; `surplus` says whether it may have more than `fields` items. -/
def isSection (surplus : Bool) (fields : Nat) : Document → Bool
  | .table _ => true
  | .array items => surplus || items.length ≤ fields
  | _ => false

def text? : Document → Option String
  | .text s => some s
  | _ => none

def boolean? : Document → Option Bool
  | .boolean b => some b
  | _ => none

def maxWord : Nat := 18446744073709551615

def natural? : Document → Option Nat
  | .integer (.ofNat n) => if n ≤ maxWord then some n else none
  | _ => none

def texts? : Document → Option (List String)
  | .array items => items.mapM text?
  | _ => none

/-- A field's value, or the default when the section does not give the field. -/
def fieldD {α : Type} (d : Document) (position : Nat) (key : String) (decode : Document → Option α)
    (default : α) : Option α :=
  match d.field? position key with
  | none => some default
  | some v => decode v

end Document

open Document

/-- In what the formats of documents differ. -/
structure Format where
  /-- Which documents stand for nothing. -/
  isUnit : Document → Bool
  /-- Whether the items of an array after the last field are ignored; else they are refused. -/
  surplus : Bool

namespace Format

def json : Format := { isUnit := fun d => d matches .null, surplus := false }

def toml : Format := { isUnit := fun d => d matches .table [] | .array [], surplus := true }

end Format

def Server.decode (f : Format) (d : Document) : Option Server := do
  if !d.isSection f.surplus 3 then none
  let bindAddress ← d.fieldD 0 "bind_address" text? ({} : Server).bindAddress
  let requestTimeoutSecs ← d.fieldD 1 "request_timeout_secs" natural? ({} : Server).requestTimeoutSecs
  let maxBodyBytes ← d.fieldD 2 "max_body_bytes" natural? ({} : Server).maxBodyBytes
  return { bindAddress, requestTimeoutSecs, maxBodyBytes }

def Coordination.decode (f : Format) (d : Document) : Option Coordination := do
  if !d.isSection f.surplus 3 then none
  let enabled ← d.fieldD 0 "enabled" boolean? ({} : Coordination).enabled
  let endpoints ← d.fieldD 1 "endpoints" texts? ({} : Coordination).endpoints
  let dialTimeoutSecs ← d.fieldD 2 "dial_timeout_secs" natural? ({} : Coordination).dialTimeoutSecs
  return { enabled, endpoints, dialTimeoutSecs }

def Lifecycle.decode (f : Format) (d : Document) : Option Lifecycle := do
  if !d.isSection f.surplus 3 then none
  let shutdownTimeoutMs ←
    d.fieldD 0 "shutdown_timeout_ms" natural? ({} : Lifecycle).shutdownTimeoutMs
  let startupTimeoutMs ← d.fieldD 1 "startup_timeout_ms" natural? ({} : Lifecycle).startupTimeoutMs
  let handleSignals ← d.fieldD 2 "handle_signals" boolean? ({} : Lifecycle).handleSignals
  return { shutdownTimeoutMs, startupTimeoutMs, handleSignals }

def LogFormat.ofName? : String → Option LogFormat
  | "pretty" => some .pretty
  | "json" => some .json
  | _ => none

/-- The name itself, or a table with the name as its only key and nothing as its value. -/
def LogFormat.decode (f : Format) : Document → Option LogFormat
  | .text s => ofName? s
  | .table [(name, v)] => if f.isUnit v then ofName? name else none
  | _ => none

def Observability.decode (f : Format) (d : Document) : Option Observability := do
  if !d.isSection f.surplus 4 then none
  let logLevel ← d.fieldD 0 "log_level" text? ({} : Observability).logLevel
  let logFormat ← d.fieldD 1 "log_format" (LogFormat.decode f) ({} : Observability).logFormat
  let metricsEnabled ← d.fieldD 2 "metrics_enabled" boolean? ({} : Observability).metricsEnabled
  let metricsAddress ← d.fieldD 3 "metrics_address" text? ({} : Observability).metricsAddress
  return { logLevel, logFormat, metricsEnabled, metricsAddress }

def decode (f : Format) (d : Document) : Option ServiceHost.Config := do
  if !d.isSection f.surplus 4 then none
  let server ← d.fieldD 0 "server" (Server.decode f) {}
  let coordination ← d.fieldD 1 "coordination" (Coordination.decode f) {}
  let lifecycle ← d.fieldD 2 "lifecycle" (Lifecycle.decode f) {}
  let observability ← d.fieldD 3 "observability" (Observability.decode f) {}
  return { server, coordination, lifecycle, observability }

def ofJson? (v : Json.Value) : Option ServiceHost.Config := decode .json (.ofJson v)

/-- The configuration with every section and field. -/
def toJson (c : ServiceHost.Config) : Json.Value :=
  .obj [
    ("server", .obj [
      ("bind_address", .str c.server.bindAddress),
      ("request_timeout_secs", .ofNat c.server.requestTimeoutSecs),
      ("max_body_bytes", .ofNat c.server.maxBodyBytes)]),
    ("coordination", .obj [
      ("enabled", .bool c.coordination.enabled),
      ("endpoints", .arr (c.coordination.endpoints.map .str)),
      ("dial_timeout_secs", .ofNat c.coordination.dialTimeoutSecs)]),
    ("lifecycle", .obj [
      ("shutdown_timeout_ms", .ofNat c.lifecycle.shutdownTimeoutMs),
      ("startup_timeout_ms", .ofNat c.lifecycle.startupTimeoutMs),
      ("handle_signals", .bool c.lifecycle.handleSignals)]),
    ("observability", .obj [
      ("log_level", .str c.observability.logLevel),
      ("log_format", .str (match c.observability.logFormat with | .pretty => "pretty" | .json => "json")),
      ("metrics_enabled", .bool c.observability.metricsEnabled),
      ("metrics_address", .str c.observability.metricsAddress)])]

end ServiceHost.Config
