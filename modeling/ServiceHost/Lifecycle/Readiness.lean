import ServiceHost.Lifecycle.Error

/-! The readiness of a starting resource: one report, made either by the resource itself or by the end of
its start. -/

namespace ServiceHost.Lifecycle

structure Readiness where
  report : Option (Except ResourceError Unit) := none

namespace Readiness

/-- The resource is operational. Later reports are ignored. -/
def ready (r : Readiness) : Readiness :=
  match r.report with
  | none => ⟨some (.ok ())⟩
  | some _ => r

/-- The start has ended. Its result becomes the report, or comes back when there was one before. -/
def settle (r : Readiness) (result : Except ResourceError Unit) :
    Readiness × Option (Except ResourceError Unit) :=
  match r.report with
  | none => (⟨some result⟩, none)
  | some _ => (r, some result)

end Readiness

end ServiceHost.Lifecycle
