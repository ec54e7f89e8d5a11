import ServiceHost.Duration
import ServiceHost.Http.Body
import ServiceHost.Text.Utf8

/-! Routes: a pattern of path segments, a method and a handler. -/

namespace ServiceHost.Http

/-- What a handler does besides answering, such as a line that it logs. -/
structure Deed where
  time : Duration
  message : String
  fields : List (String × String) := []
deriving DecidableEq

/-- A response, the time after which it is there, and what its handler does on the way. -/
structure Reply where
  response : Response
  delay : Duration := .zero
  deeds : List Deed := []
deriving DecidableEq

inductive Segment where
  | exact (s : String)
  /-- Any segment that is not empty. -/
  | parameter (name : String)
deriving DecidableEq

/-- The segments that parameters stand for, as they occur in the path. -/
abbrev Parameters := List (String × String)

def matchSegments : List Segment → List String → Option Parameters
  | [], [] => some []
  | .exact s :: pattern, t :: path => if s = t then matchSegments pattern path else none
  | .parameter name :: pattern, t :: path =>
    if t.isEmpty then none else (matchSegments pattern path).map ((name, t) :: ·)
  | _, _ => none

/-- Whether the first pattern is exact where the second, of the same length, takes anything. -/
def precedes : List Segment → List Segment → Bool
  | .exact _ :: _, .parameter _ :: _ => true
  | .exact _ :: p, .exact _ :: q => precedes p q
  | .parameter _ :: p, .parameter _ :: q => precedes p q
  | _, _ => false

inductive Verb where
  | get | post | put | patch | delete | options | trace
deriving DecidableEq

namespace Verb

/-- What is read with `GET` can be asked for with `HEAD` too. -/
def allowed : Verb → List String
  | .get => ["GET", "HEAD"]
  | .post => ["POST"]
  | .put => ["PUT"]
  | .patch => ["PATCH"]
  | .delete => ["DELETE"]
  | .options => ["OPTIONS"]
  | .trace => ["TRACE"]

def accepts (v : Verb) (method : String) : Bool := v.allowed.contains method

end Verb

/-- What a handler makes of the head, the parameters and what it reads from the body. -/
abbrev Handler := Head → Parameters → List Frame → Reply

structure Route where
  pattern : List Segment
  verb : Verb
  handler : Handler

namespace Route

/-- Patterns of one shape match the same paths. -/
def shape (r : Route) : List (Option String) :=
  r.pattern.map fun
    | .exact s => some s
    | .parameter _ => none

/-- Two routes of one shape must be one pattern with two verbs. -/
def conflicts (a b : Route) : Bool :=
  a.shape == b.shape && (a.pattern != b.pattern || a.verb == b.verb)

end Route

/-! ## Kinds of handlers -/

/-- Hexadecimal escapes stand for bytes; a percent sign without two digits stands for itself. -/
def percentBytes : List UInt8 → List UInt8
  | 0x25 :: a :: b :: rest =>
    match Text.digit? 16 (Char.ofNat a.toNat), Text.digit? 16 (Char.ofNat b.toNat) with
    | some x, some y => UInt8.ofNat (x * 16 + y) :: percentBytes rest
    | _, _ => 0x25 :: percentBytes (a :: b :: rest)
  | b :: rest => b :: percentBytes rest
  | [] => []

def badParameter (cause : String) : Reply := { response := .plain 400 ("Invalid URL: " ++ cause) }

namespace Handler

/-- Always the same response, at once. -/
def constant (r : Response) : Handler := fun _ _ _ => { response := r }

/-- Reads a parameter as a number of at most `max`. -/
def ofNumber (name typeName : String) (max : Nat) (f : Nat → Reply) : Handler := fun _ ps _ =>
  match ps.find? (·.1 == name) with
  | none => badParameter ("Missing `" ++ name ++ "`")
  | some (_, raw) =>
    match Text.Utf8.decode (percentBytes (Text.Utf8.encode raw)) with
    | .error _ => badParameter ("Invalid UTF-8 in `" ++ name ++ "`")
    | .ok s =>
      match Text.unsigned? max s.toList with
      | some n => f n
      | none => badParameter ("Cannot parse `" ++ s ++ "` to a `" ++ typeName ++ "`")

def bodyTooLong : Response :=
  .plain 413 "Failed to buffer the request body: length limit exceeded"

/-- Takes the whole body. -/
def ofBytes (f : List UInt8 → Reply) : Handler := fun _ _ fs =>
  match wholeBody? fs with
  | none => { response := bodyTooLong }
  | some bytes => f bytes

/-- Takes the whole body as a text. -/
def ofText (f : String → Reply) : Handler :=
  ofBytes fun bytes =>
    match Text.Utf8.decode bytes with
    | .ok s => f s
    | .error e =>
      { response := .plain 400 ("Request body didn't contain valid UTF-8: " ++ e.message) }

end Handler

end ServiceHost.Http
