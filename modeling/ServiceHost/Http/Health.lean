import ServiceHost.Http.Envelope

/-! What the service says about itself. -/

namespace ServiceHost.Http

def version : String := "0.1.0"

structure Health where
  status : String
  version : String
deriving DecidableEq

namespace Health

def operational : Health := ⟨"operational", Http.version⟩

def write (h : Health) : Json.Value :=
  .obj [("status", .str h.status), ("version", .str h.version)]

/-- An object with one of each field and any other members, or an array of the two. -/
def read? : Json.Node → Option Health
  | .arr [status, version] => do
    return ⟨← Format.readText? status, ← Format.readText? version⟩
  | .obj members => do
    let ms ← Format.members? members
    let status ← Format.required? "status" ms
    let version ← Format.required? "version" ms
    return ⟨← Format.readText? status, ← Format.readText? version⟩
  | _ => none

def format : Format Health := ⟨write, read?⟩

end Health

end ServiceHost.Http
