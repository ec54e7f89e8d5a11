import ServiceHost.Http.Message
import ServiceHost.Text.Digit

/-! Request bodies as handlers get them: chunk by chunk, and never more than the limit in force. -/

namespace ServiceHost.Http

/-- What reading a body gives next. -/
inductive Frame where
  | data (bytes : List UInt8)
  /-- The body goes on past the limit. -/
  | overflow
deriving DecidableEq

/-- The chunks of a body up to the first one that goes past the limit. -/
def framesWithin (limit : Nat) : List (List UInt8) → List Frame
  | [] => []
  | c :: rest =>
    if limit < c.length then [.overflow] else .data c :: framesWithin (limit - c.length) rest

/-- The bytes of all chunks, `none` when there are more than `limit`. -/
def collect? (limit : Nat) : List Frame → Option (List UInt8)
  | [] => some []
  | .overflow :: _ => none
  | .data c :: rest =>
    if limit < c.length then none else (collect? (limit - c.length) rest).map (c ++ ·)

/-- Handlers that take a whole body take no more than this, whatever the configured limit. -/
def wholeBodyLimit : Nat := 2097152

def wholeBody? (fs : List Frame) : Option (List UInt8) := collect? wholeBodyLimit fs

/-- The length that a request declares; a header that is no number counts as absent. -/
def Head.declaredLength? (q : Head) : Option Nat :=
  (q.headers.first? "content-length").bind fun v => Text.unsigned? (UInt64.size - 1) v.toList

end ServiceHost.Http
