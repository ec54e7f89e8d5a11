import ServiceHost.Duration
import ServiceHost.Lifecycle.StopReason

/-! What can go wrong while a service boots, runs and shuts down. Every error has a message and a list of
causes: the messages of the errors below it, nearest first. -/

namespace ServiceHost.Lifecycle

/-- What a panic carries: a text, or something that cannot be shown. -/
inductive Payload where
  | text (message : String)
  | unknown
deriving DecidableEq

def Payload.message? : Payload → Option String
  | .text m => some m
  | .unknown => none

/-- An error of a resource. `cause` is the text of an input or output failure below it. -/
inductive ResourceError where
  /-- The resource stopped because it was asked to; never a failure. -/
  | closed
  | bind (address cause : String)
  | connect (endpoints : List String) (reason : String)
  /-- Closing took longer than the shutdown allows. -/
  | closeTimedOut
  | panicked (message : String)
  | io (cause : String)
deriving DecidableEq

namespace ResourceError

def message : ResourceError → String
  | closed => "resource closed by request"
  | bind address cause => "failed to bind " ++ address ++ ": " ++ cause
  | connect endpoints reason =>
      "failed to connect to any of [" ++ ", ".intercalate endpoints ++ "]: " ++ reason
  | closeTimedOut => "close did not complete before the shutdown deadline"
  | panicked message => "start panicked: " ++ message
  | io cause => "IO error: " ++ cause

def causes : ResourceError → List String
  | bind _ cause => [cause]
  | io cause => [cause]
  | _ => []

def isClosed : ResourceError → Bool
  | closed => true
  | _ => false

/-- The error of a start that panicked. -/
def ofPanic (p : Payload) : ResourceError := .panicked (p.message?.getD "unknown panic")

end ResourceError

/-- A resource did not come up. -/
inductive BootError where
  | start (resource : String) (source : ResourceError)
  /-- The start task ended without a report. -/
  | aborted (resource : String)
  | timeout (resource : String) (after : Duration)
  /-- A stop was triggered first. -/
  | interrupted (resource : String) (reason : StopReason)
  /-- An earlier boot ended at this resource. -/
  | alreadyFailed (resource : String)
deriving DecidableEq

namespace BootError

def resource : BootError → String
  | start r _ => r
  | aborted r => r
  | timeout r _ => r
  | interrupted r _ => r
  | alreadyFailed r => r

def message : BootError → String
  | start r source => "resource `" ++ r ++ "` failed to start: " ++ source.message
  | aborted r => "resource `" ++ r ++ "` start task aborted before becoming ready"
  | timeout r after => "resource `" ++ r ++ "` not ready after " ++ after.text
  | interrupted r reason => "startup of `" ++ r ++ "` interrupted: " ++ reason.text
  | alreadyFailed r => "boot already failed on resource `" ++ r ++ "`"

def causes : BootError → List String
  | start _ source => source.message :: source.causes
  | _ => []

end BootError

/-- An action came too late for the registry. -/
structure RegistryClosed where
  name : String
deriving DecidableEq

namespace RegistryClosed

def message (e : RegistryClosed) : String :=
  "shutdown registry is closed; `" ++ e.name ++ "` was not registered"

def debug (e : RegistryClosed) : String :=
  "RegistryClosed \x7b name: " ++ Text.quoted e.name ++ " \x7d"

end RegistryClosed

/-- What made a cleanup fail: a plain text or an error of a resource. -/
inductive Cause where
  | text (message : String)
  | resource (error : ResourceError)
deriving DecidableEq

namespace Cause

def message : Cause → String
  | text m => m
  | resource e => e.message

def causes : Cause → List String
  | text _ => []
  | resource e => e.causes

/-- The error that a resource reports for this cause. -/
def toResourceError : Cause → ResourceError
  | text m => .io m
  | resource e => e

/-- How a task that panicked is described to the one that waits for it. -/
def ofPanic (task : Nat) (p : Payload) : Cause :=
  let detail :=
    match p with
    | .text m => " with message " ++ Text.quoted m
    | .unknown => ""
  .text ("task " ++ toString task ++ " panicked" ++ detail)

end Cause

/-- One action, or the close of one resource, that did not complete cleanly. -/
inductive CleanupError where
  | failed (name : String) (source : Cause)
  /-- It was running when the deadline passed. -/
  | timedOut (name : String)
  /-- The deadline passed before it could begin. -/
  | skipped (name : String)
deriving DecidableEq

namespace CleanupError

def name : CleanupError → String
  | failed n _ => n
  | timedOut n => n
  | skipped n => n

def isDeadline : CleanupError → Bool
  | failed .. => false
  | _ => true

def message : CleanupError → String
  | failed n source => "shutdown action `" ++ n ++ "` failed: " ++ source.message
  | timedOut n => "shutdown action `" ++ n ++ "` timed out"
  | skipped n => "shutdown action `" ++ n ++ "` skipped: shutdown deadline elapsed"

def causes : CleanupError → List String
  | failed _ source => source.message :: source.causes
  | _ => []

end CleanupError

/-- All that went wrong in one shutdown, in the order in which it was noticed. -/
abbrev Failures := List CleanupError

def Failures.message (fs : Failures) : String :=
  let parts := fs.map CleanupError.message
  toString fs.length ++ " shutdown action(s) failed" ++
    (if fs.isEmpty then "" else ": ") ++ "; ".intercalate parts

/-- Nothing failed exactly when the list is empty. -/
def Failures.toExcept (fs : Failures) : Except Failures Unit :=
  if fs.isEmpty then .ok () else .error fs

/-- How a whole run of a service fails. -/
inductive RunError where
  | boot (error : BootError)
  | resourceFailed (resource : String) (source : ResourceError)
  | shutdown (failures : Failures)
deriving DecidableEq

namespace RunError

def message : RunError → String
  | boot e => "boot failed: " ++ e.message
  | resourceFailed r source => "resource `" ++ r ++ "` failed while running: " ++ source.message
  | shutdown fs => "shutdown incomplete: " ++ Failures.message fs

def causes : RunError → List String
  | boot e => e.message :: e.causes
  | resourceFailed _ source => source.message :: source.causes
  | shutdown fs => [Failures.message fs]

end RunError

end ServiceHost.Lifecycle
