import ServiceHost.Lifecycle.Host

/-! The parts of a host that the calls of one resource look at: the server or the client behind a number, and
what was reported on a task. -/

namespace ServiceHost.Lifecycle

def Host.server? (h : Host) (r : ResourceId) : Option Server := (h.resource? r).bind (·.server?)

def Host.client? (h : Host) (r : ResourceId) : Option Client := (h.resource? r).bind (·.client?)

/-- What the start on a task of the table has reported. -/
def Host.report? (h : Host) (t : TaskId) : Option (Option (Except ResourceError Unit)) :=
  (h.task? t).map (·.readiness.report)

def Host.changeServer (h : Host) (r : ResourceId) (f : Server → Server) : Host :=
  h.modifyResource r (Resource.mapServer f)

def Host.changeClient (h : Host) (r : ResourceId) (f : Client → Client) : Host :=
  h.modifyResource r (Resource.mapClient f)

variable {h : Host} {t : TaskId} {r : ResourceId} {v : Server} {c : Client}

theorem Host.resource?_modifyResource (h : Host) (r : ResourceId) (f : Resource → Resource) :
    (h.modifyResource r f).resource? r = (h.resource? r).map f :=
  List.getElem?_modify_eq f r h.resources

theorem Host.resource?_of_server? (server : h.server? r = some v) :
    ∃ name, h.resource? r = some ⟨name, .server v⟩ := by
  obtain ⟨⟨name, kind⟩, here, server⟩ := Option.bind_eq_some_iff.1 server
  cases kind <;> cases server
  exact ⟨name, here⟩

theorem Host.resource?_of_client? (client : h.client? r = some c) :
    ∃ name, h.resource? r = some ⟨name, .client c⟩ := by
  obtain ⟨⟨name, kind⟩, here, client⟩ := Option.bind_eq_some_iff.1 client
  cases kind <;> cases client
  exact ⟨name, here⟩

theorem Host.server?_changeServer (f : Server → Server) (found : h.server? r = some v) :
    (h.changeServer r f).server? r = some (f v) := by
  obtain ⟨name, here⟩ := Host.resource?_of_server? found
  rw [server?, changeServer, resource?_modifyResource, here]
  rfl

theorem Host.server?_requestClose (found : h.server? r = some v) :
    (h.modifyResource r Resource.requestClose).server? r = some { v with closeRequested := true } := by
  obtain ⟨name, here⟩ := Host.resource?_of_server? found
  rw [server?, resource?_modifyResource, here]
  rfl

theorem Host.client?_changeClient (f : Client → Client) (found : h.client? r = some c) :
    (h.changeClient r f).client? r = some (f c) := by
  obtain ⟨name, here⟩ := Host.resource?_of_client? found
  rw [client?, changeClient, resource?_modifyResource, here]
  rfl

theorem Host.report?_reportReady (silent : h.report? t = some none) :
    (h.reportReady t).report? t = some (some (.ok ())) := by
  obtain ⟨x, here, report⟩ := Option.map_eq_some_iff.1 silent
  have changed : (h.reportReady t).task? t = some { x with readiness := x.readiness.ready } := by
    rw [task?, reportReady, modifyTask, List.getElem?_modify_eq]
    exact congrArg (Option.map _) here
  rw [Host.report?, changed, Option.map_some, Readiness.ready, report]

end ServiceHost.Lifecycle
