import ServiceHost.Json.Writer
import ServiceHost.Lifecycle.Drain

/-! How scripts, HTTP servers and coordination clients behave: their starts, their closes, and the routine
of every kind of task. -/

namespace ServiceHost.Lifecycle

open Routine

/-- Whom a script speaks for and what it can reach. -/
structure Role where
  who : String
  task : Option TaskId := none
  resource : Option ResourceId := none
  deadline : Option Instant := none

/-- A registration's result as it is noted. -/
def registrationText : Except RegistryClosed Unit → String
  | .ok () => (Json.Value.str "ok").compact
  | .error e =>
    (Json.Value.obj [("chain", .arr []), ("error", .str "RegistryClosed"),
      ("message", .str e.message)]).compact

/-- Runs a routine under the deadline, if there is one. -/
def Role.bounded {α : Type} (role : Role) (r : Routine α) : Routine (Option α) :=
  match role.deadline with
  | some d => r.within d
  | none => return some (← r)

/-- The wait of someone who only wants to be told the reason; `fallback` stands in for a reason that is
missing. -/
def awaitTrigger (fallback : StopReason) : Routine StopReason := do
  waitFor .triggered
  let reason ← read (·.trigger.reason)
  return reason.getD fallback

/-- The instructions that neither end a script nor return a result. -/
def runInstruction (role : Role) : Instruction → Routine Unit
  | .note text => say role.who text
  | .ready =>
    match role.task with
    | some t => update (·.reportReady t)
    | none => return ()
  | .isReady => do
    match role.task with
    | some t =>
      let reported ← read fun h => (h.readiness t).isSome
      say role.who ("is_ready=" ++ toString reported)
    | none => return ()
  | .sleep ms => sleep ms
  | .hang => hang
  | .awaitClose =>
    match role.resource with
    | some r => waitFor (.closeRequested r)
    | none => return ()
  | .requestClose =>
    match role.resource with
    | some r => update (·.modifyResource r Resource.requestClose)
    | none => return ()
  | .trigger reason => do
    let accepted ← act (·.fire reason)
    say role.who ("trigger=" ++ toString accepted)
  | .register name body => do
    let result ← act (·.register { name, body })
    say role.who ("register=" ++ registrationText result)
  | .remaining =>
    match role.deadline with
    | some d =>
      update fun h =>
        h.say role.who
          ("remaining=" ++ toString (h.remaining d) ++ " expired=" ++ toString (h.isExpired d))
    | none => return ()
  | .boundedSleep ms => do
    let finished ← role.bounded (sleep ms)
    say role.who ("bounded=" ++ toString finished.isSome)
  | .drain ms => do
    let deadline ← read (·.now + ms)
    let failures ← drain deadline
    say role.who ("drain=" ++ toString failures.isEmpty)
  | .awaitTrigger => do
    let reason ← awaitTrigger .requested
    say role.who ("triggered=" ++ reason.text)
  | .panic p => .panic p
  | .succeed => return ()
  | .fail _ => return ()

def runScript (role : Role) : Script → Routine (Except Cause Unit)
  | [] => return .ok ()
  | .succeed :: _ => return .ok ()
  | .fail cause :: _ => return .error cause
  | i :: rest => do
    runInstruction role i
    runScript role rest

/-! ## HTTP server -/

/-- Binds the listener, reports ready, and serves until closing was requested and no request is left. -/
def serveRequests (t : TaskId) (r : ResourceId) (s : Server) : Routine (Except ResourceError Unit) := do
  if s.closeRequested then return .error .closed
  match ← read (·.network.bind s.options.address) with
  | .error e => return .error (.bind s.options.address e.text)
  | .ok ip =>
    update fun h =>
      h.modifyResource r (Resource.mapServer fun s =>
        { s with localIp := s.localIp.orElse fun _ => some ip, serving := true })
    emit (.listening s.options.name)
    update (·.reportReady t)
    waitFor (.idle r)
    update fun h => h.modifyResource r (Resource.mapServer fun s => { s with stopped := true })
    emit (.serverStopped s.options.name)
    return .ok ()

def closeServer (r : ResourceId) (s : Server) (deadline : Instant) :
    Routine (Except ResourceError Unit) := do
  update fun h => h.modifyResource r Resource.requestClose
  if !s.serving then return .ok ()
  emit (.connectionsDraining s.options.name)
  match ← within deadline (waitFor (.serverStopped r)) with
  | some () => return .ok ()
  | none =>
    emit (.connectionsLeft s.options.name)
    return .error .closeTimedOut

/-! ## Coordination client -/

def awaitAnswer : Net.Answer → Routine (Except Net.Failure Unit)
  | .after ms result => do
    sleep ms
    return result
  | .never => hang

/-- Dials one endpoint; `none` when it does not answer in time. -/
def dial (endpoint : String) (timeout : Duration) : Routine (Option (Except Net.Failure Unit)) := do
  let answer ← act fun h => (h.network.dial h.dials endpoint, { h with dials := h.dials + 1 })
  let deadline ← read (·.now + timeout.ceilMillis)
  within deadline (awaitAnswer answer)

/-- Dials the endpoints in order up to the first success; `reason` is why the last one failed. -/
def connect (t : TaskId) (r : ResourceId) (o : Coordination.ClientOptions) (reason : String) :
    List String → Routine (Except ResourceError Unit)
  | [] => return .error (.connect o.endpoints reason)
  | endpoint :: rest => do
    emit (.dialing endpoint o.dialTimeout)
    match ← dial endpoint o.dialTimeout with
    | some (.ok ()) =>
      emit (.connected o.name endpoint)
      update fun h =>
        h.modifyResource r (Resource.mapClient fun c => { c with connection := some endpoint })
      update (·.reportReady t)
      return .ok ()
    | some (.error e) =>
      emit (.unreachable endpoint e.text)
      connect t r o (endpoint ++ ": " ++ e.text) rest
    | none =>
      emit (.dialTimedOut endpoint)
      connect t r o (endpoint ++ ": dial timed out") rest

/-- Takes the connection, if there is one, and hangs up. -/
def disconnect (r : ResourceId) (c : Client) (deadline : Instant) :
    Routine (Except ResourceError Unit) := do
  match c.connection with
  | none => return .ok ()
  | some endpoint =>
    update fun h => h.modifyResource r (Resource.mapClient fun c => { c with connection := none })
    match ← within deadline (do awaitAnswer (← read (·.network.hangUp endpoint))) with
    | some (.ok ()) =>
      emit (.disconnected c.options.name endpoint)
      return .ok ()
    | some (.error e) => return if e.peerGone then .ok () else .error (.io e.text)
    | none => return .error .closeTimedOut

/-! ## Resources and tasks -/

/-- What runs while a resource's start is being called, before anything can catch a panic. -/
def callStart (t : TaskId) (r : ResourceId) : Routine Unit := do
  match ← read (·.resource? r) with
  | some ⟨name, .scripted s⟩ =>
    let _ ← runScript { who := name, task := some t, resource := some r } s.prelude
    return ()
  | _ => return ()

def runStart (t : TaskId) (r : ResourceId) : Routine (Except ResourceError Unit) := do
  match ← read (·.resource? r) with
  | some ⟨name, .scripted s⟩ =>
    say "start" name
    let result ← runScript { who := name, task := some t, resource := some r } s.start
    return result.mapError Cause.toResourceError
  | some ⟨_, .server s⟩ => serveRequests t r s
  | some ⟨_, .client c⟩ => connect t r c.options "no endpoints configured" c.options.endpoints
  | none => return .ok ()

def runClose (r : ResourceId) (deadline : Instant) : Routine (Except ResourceError Unit) := do
  match ← read (·.resource? r) with
  | some ⟨name, .scripted s⟩ =>
    say "close" name
    let result ← runScript { who := name, resource := some r, deadline := some deadline } s.close
    return result.mapError Cause.toResourceError
  | some ⟨_, .server s⟩ => closeServer r s deadline
  | some ⟨_, .client c⟩ => disconnect r c deadline
  | none => return .ok ()

/-- What a task does, up to the result that is recorded for it. -/
def Job.body (t : TaskId) : Job → Routine (Except Cause Unit)
  | .start r audience => do
    callStart t r
    let result ←
      match ← (runStart t r).attempt with
      | .ok result => pure result
      | .error p => pure (.error (ResourceError.ofPanic p))
    update (·.settle t r audience result)
    return .ok ()
  | .action a deadline => do
    say "action" a.name
    runScript { who := a.name, deadline := some deadline } a.body
  | .triggerLater ms reason => do
    sleep ms
    let accepted ← act (·.fire reason)
    update (·.note (.text ("trigger_after=" ++ toString accepted)))
    return .ok ()
  | .listen => do
    waitFor (.delivered t)
    match ← read fun h => (h.task? t).bind (·.signal) with
    | some s =>
      emit (.signalReceived s)
      let _ ← act (·.fire s.reason)
      return .ok ()
    | none => return .ok ()
  | .sendWhenRunning signal => do
    waitFor .running
    update (·.deliver signal)
    return .ok ()

def Job.routine (t : TaskId) (job : Job) : Routine Unit := do
  match ← (job.body t).attempt with
  | .ok result => update (·.finish t (.returned result))
  | .error p => update (·.finish t (.panicked p))

end ServiceHost.Lifecycle
