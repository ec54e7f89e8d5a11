import ServiceHost.Http.Message
import ServiceHost.Json.Reader
import ServiceHost.Json.Writer

/-! The envelope around every JSON response: a code, a message and perhaps data. The code doubles as the
HTTP status. -/

namespace ServiceHost.Http

/-- The outcomes that have a fixed code and message. -/
inductive Outcome where
  | success | invalidParams | notFound | error
deriving DecidableEq

namespace Outcome

def code : Outcome → UInt16
  | .success => 200
  | .invalidParams => 400
  | .notFound => 404
  | .error => 500

def message : Outcome → String
  | .success => "ok"
  | .invalidParams => "invalid params"
  | .notFound => "not found"
  | .error => "internal error"

def name : Outcome → String
  | .success => "Success"
  | .invalidParams => "InvalidParams"
  | .notFound => "NotFound"
  | .error => "Error"

end Outcome

/-- A code outside the range of statuses becomes 500. -/
def statusOf (code : UInt16) : Nat :=
  if 100 ≤ code.toNat && code.toNat ≤ 999 then code.toNat else 500

/-- How data of one type is written and read inside an envelope. -/
structure Format (α : Type) where
  write : α → Json.Value
  read? : Json.Node → Option α

structure Envelope (α : Type) where
  code : UInt16
  msg : String
  data : Option α
deriving DecidableEq

namespace Envelope

variable {α : Type}

def ofOutcome (o : Outcome) (data : Option α) : Envelope α := ⟨o.code, o.message, data⟩

def success (data : α) : Envelope α := ofOutcome .success (some data)

def failure (o : Outcome) : Envelope α := ofOutcome o none

def failureWith (o : Outcome) (msg : String) : Envelope α := ⟨o.code, msg, none⟩

def toJson (f : Format α) (e : Envelope α) : Json.Value :=
  .obj [("code", .ofNat e.code.toNat), ("msg", .str e.msg), ("data", .ofOption f.write e.data)]

def text (f : Format α) (e : Envelope α) : String := (e.toJson f).compact

def response (f : Format α) (e : Envelope α) : Response :=
  { status := statusOf e.code, headers := [("content-type", "application/json")], body := e.text f }

end Envelope

/-! ## Reading -/

namespace Format

def readText? : Json.Node → Option String
  | .text s => s
  | _ => none

def readNatural? (max : Nat) : Json.Node → Option Nat
  | .numeral n =>
    match n.number? with
    | some (.int (.ofNat k)) => if k ≤ max then some k else none
    | _ => none
  | _ => none

/-- A `null` is no value. -/
def readOptional? {α : Type} (read? : Json.Node → Option α) : Json.Node → Option (Option α)
  | .null => some none
  | v => (read? v).map some

/-- The members of an object whose keys are all texts. -/
def members? (members : List (Option String × Json.Node)) : Option (List (String × Json.Node)) :=
  members.mapM fun m => m.1.map (·, m.2)

/-- The values that a key has. -/
def valuesOf (key : String) (members : List (String × Json.Node)) : List Json.Node :=
  (members.filter (·.1 == key)).map (·.2)

/-- The value of a key that must occur once. -/
def required? (key : String) (members : List (String × Json.Node)) : Option Json.Node :=
  match valuesOf key members with
  | [v] => some v
  | _ => none

/-- The data of an envelope stands inside one bracket. -/
def any : Format Json.Value where
  write := Json.Value.canonical
  read? v := v.value? 1

def text : Format String where
  write := .str
  read? := readText?

def word : Format UInt64 where
  write n := .ofNat n.toNat
  read? v := (readNatural? (UInt64.size - 1) v).map UInt64.ofNat

end Format

namespace Envelope

variable {α : Type}

def ofParts? (f : Format α) (code msg : Json.Node) (data : Option Json.Node) :
    Option (Envelope α) := do
  let code ← Format.readNatural? (UInt16.size - 1) code
  let msg ← Format.readText? msg
  let data ←
    match data with
    | none => some none
    | some v => Format.readOptional? f.read? v
  return ⟨UInt16.ofNat code, msg, data⟩

/-- An object with one code, one message, at most one datum and any other members, or an array of the
three in this order. -/
def ofNode? (f : Format α) : Json.Node → Option (Envelope α)
  | .arr [code, msg, data] => ofParts? f code msg (some data)
  | .obj members => do
    let ms ← Format.members? members
    let code ← Format.required? "code" ms
    let msg ← Format.required? "msg" ms
    match Format.valuesOf "data" ms with
    | [] => ofParts? f code msg none
    | [data] => ofParts? f code msg (some data)
    | _ => none
  | _ => none

def ofString? (f : Format α) (s : String) : Option (Envelope α) :=
  (Json.Node.ofString? s).bind (ofNode? f)

end Envelope

end ServiceHost.Http
