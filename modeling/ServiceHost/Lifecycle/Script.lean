import ServiceHost.Lifecycle.Error

/-! Scripts: the bodies of shutdown actions and of scripted resources, as lists of instructions. -/

namespace ServiceHost.Lifecycle

inductive Instruction where
  | note (text : String)
  /-- Report that the resource is operational. -/
  | ready
  | isReady
  | sleep (ms : Nat)
  | hang
  /-- Wait until closing the resource was requested. -/
  | awaitClose
  | requestClose
  | trigger (reason : StopReason)
  | register (name : String) (body : List Instruction)
  /-- Note the time left before the deadline. -/
  | remaining
  /-- Sleep, but not past the deadline. -/
  | boundedSleep (ms : Nat)
  /-- Drain the registry within so many milliseconds. -/
  | drain (ms : Nat)
  | awaitTrigger
  | succeed
  | fail (cause : Cause)
  | panic (payload : Payload)

abbrev Script := List Instruction

/-- A named shutdown action. Calling it hands out its body, unless the call itself panics. -/
structure Action where
  name : String
  body : Script
  callPanics : Option Payload := none

end ServiceHost.Lifecycle
