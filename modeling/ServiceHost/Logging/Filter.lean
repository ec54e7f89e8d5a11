import ServiceHost.Config.Schema
import ServiceHost.Logging.Directive

/-! Which messages are shown, by directives separated by commas. -/

namespace ServiceHost.Logging

structure Filter where
  /-- The directives that hold without looking at spans, then those that look at spans. -/
  directives : List Directive
  mostVerbose : Verbosity
deriving DecidableEq

/-- A scope as it is told apart from others. -/
def Scope.key (s : Scope) : Scope :=
  { s with field := s.field.map fun f => { f with value := f.value.map FieldValue.key } }

namespace Filter

/-- Adds a directive in place of one with the same scope. -/
def put (ds : List Directive) (d : Directive) : List Directive :=
  ds.filter (fun e => e.scope.key ≠ d.scope.key) ++ [d]

/-- Directives of a span, or of a field. -/
def isDynamic (d : Directive) : Bool := d.scope.span.isSome || d.scope.field.isSome

/-- A field without a value needs no look at a span. -/
def isStatic (d : Directive) : Bool :=
  d.scope.span.isNone && d.scope.field.all (·.value.isNone)

def ofDirectives (ds : List Directive) : Filter :=
  let comparesValues := ds.any fun d => d.scope.field.any (·.value.isSome)
  { directives := (ds.filter isStatic).foldl put [] ++ (ds.filter isDynamic).foldl put []
    mostVerbose :=
      if comparesValues then some .trace
      else ds.foldl (fun v d => Verbosity.max v d.verbosity) none }

/-- The directives between commas. -/
def text (f : Filter) : String := ",".intercalate (f.directives.map Directive.text)

def pieces (s : String) : List (List Char) := (Text.split ',' s.toList).filter (!·.isEmpty)

/-- Whether a directive speaks of a message with this target and these fields. -/
def applies (target : String) (fields : List String) (d : Directive) : Bool :=
  isStatic d && d.scope.target.all (·.isPrefixOf target) && d.scope.field.all (fields.contains ·.name)

/-- Whether `a` is less specific than `b`: its target is shorter, else it has no field, else its field's
name is the smaller one. -/
def isLessSpecific (a b : Directive) : Bool :=
  let length (d : Directive) : Nat := (d.scope.target.map (·.utf8ByteSize + 1)).getD 0
  if length a ≠ length b then length a < length b
  else
    match a.scope.field, b.scope.field with
    | some x, some y => x.name < y.name
    | none, some _ => true
    | _, _ => false

/-- Whether a message is shown: the most specific directive that applies decides. -/
def shows (f : Filter) (target : String) (fields : List String) (level : Level) : Bool :=
  match f.directives.filter (applies target fields) with
  | [] => false
  | d :: rest =>
    let decisive := rest.foldl (fun a b => if isLessSpecific a b then b else a) d
    level.rank ≤ decisive.verbosity.rank

/-- All directives must be readable. -/
def ofString (s : String) : Except Refusal Filter :=
  ((pieces s).mapM Directive.read).map ofDirectives

/-- Directives without a fault that can be read. -/
def readable : List (List Char) → Except Text.Fault (List Directive)
  | [] => .ok []
  | piece :: rest =>
    match Directive.read piece with
    | .ok d => (readable rest).map (d :: ·)
    | .error .malformed => readable rest
    | .error (.fault f) => .error f

/-- Errors are shown when there are no directives. -/
def fallback : Directive := { verbosity := some .error }

/-- Directives that cannot be read are left out. -/
def ofStringLossy (s : String) : Except Text.Fault Filter := do
  let ds ← readable (pieces s)
  return ofDirectives (if ds.isEmpty then [fallback] else ds)

/-- The level of the configuration, for the service and its HTTP layers. -/
def ofLevel (level : String) : Except Text.Fault Filter :=
  ofStringLossy ("api_scaffold=" ++ level ++ ",tower_http=" ++ level)

/-- Directives from the environment, if there are any and they can be read, come before the
configuration. -/
def ofConfig (c : Config.Observability) (environment : Option String) : Except Text.Fault Filter :=
  match environment.map ofString with
  | some (.ok f) => .ok f
  | some (.error (.fault f)) => .error f
  | _ => ofLevel c.logLevel

end Filter

end ServiceHost.Logging
