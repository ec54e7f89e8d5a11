import ServiceHost.Logging.FieldValue
import ServiceHost.Logging.Level
import ServiceHost.Text.Slice

/-! Directives name a target, a span, a field of a span or none of them, and the verbosity that holds
there: `target[span{field=value}]=level`.

The blanks around a directive count neither for its form nor for the places of its parts. The parts are
then taken from the whole text at these places, so blanks in front shift them. -/

namespace ServiceHost.Logging

structure FieldMatch where
  name : String
  value : Option FieldValue
deriving DecidableEq

/-- What a directive applies to; to everything when it names nothing. -/
structure Scope where
  target : Option String := none
  span : Option String := none
  field : Option FieldMatch := none
deriving DecidableEq

structure Directive where
  scope : Scope := {}
  verbosity : Verbosity
deriving DecidableEq

/-! ## Text -/

def FieldMatch.text (f : FieldMatch) : String :=
  match f.value with
  | none => f.name
  | some v => f.name ++ "=" ++ v.text

def Scope.text (s : Scope) : String :=
  let field := match s.field with
    | none => ""
    | some f => "\x7b" ++ f.text ++ "\x7d"
  let span :=
    if s.span.isNone && s.field.isNone then "" else "[" ++ s.span.getD "" ++ field ++ "]"
  s.target.getD "" ++ span

def Directive.text (d : Directive) : String :=
  if d.scope = {} then d.verbosity.text else d.scope.text ++ "=" ++ d.verbosity.text

/-! ## Reading -/

/-- Why a text is no directive. -/
inductive Refusal where
  | malformed
  | fault (f : Text.Fault)
deriving DecidableEq

/-- A name, and a value when there is an equals sign. -/
def FieldMatch.ofChars? (s : List Char) : Option FieldMatch :=
  let pieces := Text.split '=' s
  let name := String.ofList (pieces.headD [])
  match pieces[1]? with
  | none => some { name, value := none }
  | some v => (FieldValue.ofChars? v).map fun v => { name, value := some v }

namespace Directive

/-- The part of a directive between two places. -/
def part (whole : List Char) (start stop : Nat) : Except Refusal (List Char) :=
  (Text.slice whole start stop).mapError .fault

def expect {α : Type} : Option α → Except Refusal α
  | none => .error .malformed
  | some a => .ok a

/-- Letters and digits, and three signs. -/
def isFirstChar (c : Char) : Bool := c == '-' || c == ':' || c == '_' || Text.isAlphanumeric c

/-- What follows the scope, from a place on; no level is the most verbose one. -/
def readLevel (whole : List Char) (place : Nat) (scope : Scope) :
    List Char → Except Refusal Directive
  | [] => .ok { scope, verbosity := some .trace }
  | '=' :: _ => do
    let level ← (Text.sliceFrom whole (place + 1)).mapError Refusal.fault
    if level.isEmpty then return { scope, verbosity := some .trace }
    else return { scope, verbosity := ← expect (Verbosity.ofChars? level) }
  | _ => .error .malformed

/-- What follows an opening bracket, from a place on. -/
def readSpan (whole : List Char) (place : Nat) (target : Option String) (s : List Char) :
    Except Refusal Directive := do
  let ends (c : Char) : Bool := c == ']' || c == '\x7b'
  let stop := place + Text.byteLength (s.takeWhile (!ends ·))
  match s.dropWhile (!ends ·) with
  | ']' :: rest =>
    let span := String.ofList (← part whole place stop)
    readLevel whole (stop + 1) { target, span := some span } rest
  | '\x7b' :: rest =>
    let span := String.ofList (← part whole place stop)
    let width := Text.byteLength (rest.takeWhile (· != '\x7d'))
    match rest.dropWhile (· != '\x7d') with
    | [] => throw .malformed
    | _ :: rest =>
      if width = 0 then throw .malformed
      else
        let field ← expect (FieldMatch.ofChars? (← part whole (stop + 1) (stop + 1 + width)))
        let scope : Scope :=
          { target, span := if span.isEmpty then none else some span, field := some field }
        match rest with
        | ']' :: rest => readLevel whole (stop + width + 3) scope rest
        | _ => throw .malformed
  | _ => throw .malformed

/-- A word alone is a verbosity if it names one, else a target. -/
def read (whole : List Char) : Except Refusal Directive :=
  let s := Text.trim whole
  match s with
  | [] => .error .malformed
  | '[' :: rest => readSpan whole 1 none rest
  | c :: _ =>
    if !isFirstChar c then .error .malformed
    else
      let ends (c : Char) : Bool := c == '=' || c == '['
      let stop := Text.byteLength (s.takeWhile (!ends ·))
      match s.dropWhile (!ends ·) with
      | [] =>
        match Verbosity.ofChars? whole with
        | some v => .ok { verbosity := v }
        | none =>
          .ok { scope := { target := some (String.ofList whole) }, verbosity := some .trace }
      | '[' :: rest => do
        let target := String.ofList (← part whole 0 stop)
        readSpan whole (stop + 1) (some target) rest
      | rest => do
        let target := String.ofList (← part whole 0 stop)
        readLevel whole stop { target := some target } rest

end Directive

end ServiceHost.Logging
