import ServiceHost.Http.Health
import ServiceHost.Http.Options
import ServiceHost.Http.Route

/-! The router: it finds the handler for a request and keeps the rules that hold for every route, in layers
around the handlers. From the outside in, a request gets an id, its response carries the id, a body that is
declared too long is refused, and a handler that takes too long is given up. -/

namespace ServiceHost.Http

structure Router where
  routes : List Route
  maxBodyBytes : Nat
  requestTimeout : Duration

namespace Router

def ping : Route :=
  { pattern := [.exact "ping"], verb := .get
    handler := .constant ((Envelope.success "pong").response Format.text) }

def health : Route :=
  { pattern := [.exact "health"], verb := .get
    handler := .constant ((Envelope.success Health.operational).response Health.format) }

def isConsistent : List Route → Bool
  | [] => true
  | r :: rest => !rest.any r.conflicts && isConsistent rest

/-- The service's own routes and those of an application; `none` when two of them conflict. -/
def ofOptions? (o : ServerOptions) (application : List Route) : Option Router :=
  let routes := ping :: health :: application
  if isConsistent routes then
    some { routes, maxBodyBytes := o.maxBodyBytes, requestTimeout := o.requestTimeout }
  else none

/-! ## Finding a handler -/

/-- The pattern that goes before the others, with its parameters. -/
def foremost? : List (List Segment × Parameters) → Option (List Segment × Parameters)
  | [] => none
  | m :: rest =>
    match foremost? rest with
    | some n => if precedes n.1 m.1 then some n else some m
    | none => some m

/-- The routes of the foremost pattern that matches the path, with the parameters. -/
def matching (r : Router) (q : Head) : List Route × Parameters :=
  let found := do
    let path ← q.segments?
    foremost? (r.routes.filterMap fun route =>
      (matchSegments route.pattern path).map fun ps => (route.pattern, ps))
  match found with
  | none => ([], [])
  | some (pattern, ps) => (r.routes.filter (·.pattern == pattern), ps)

def notFound : Response := (Envelope.failure .notFound : Envelope String).response Format.text

/-- Answers a path without a route, and logs it. -/
def fallback (q : Head) : Reply :=
  { response := notFound, deeds := [{ time := .zero, message := "No route matched", fields := [("path", q.path)] }] }

/-- What the handler of a route answers, or the answer for a path or method without one. -/
def handle (r : Router) (q : Head) (fs : List Frame) : Reply :=
  match r.matching q with
  | ([], _) => fallback q
  | (routes, ps) =>
    match routes.find? (·.verb.accepts q.method) with
    | some route => route.handler q ps fs
    | none => { response := { status := 405 } }

/-- The methods to name when a path has no handler for the method of the request. -/
def allowHeader (r : Router) (q : Head) : Headers :=
  let routes := (r.matching q).1
  if routes.isEmpty || routes.any (·.verb.accepts q.method) then []
  else [("allow", ",".intercalate (routes.flatMap (·.verb.allowed)))]

/-! ## Rules for every route -/

/-- A reply that is not there before the time is up is replaced, and its handler goes no further. -/
def giveUpAfter (limit : Duration) (inner : Head → List Frame → Reply) (q : Head)
    (fs : List Frame) : Reply :=
  let reply := inner q fs
  if reply.delay.nanos < limit.nanos then reply
  else
    { response := { status := 408 }, delay := limit
      deeds := reply.deeds.filter (·.time.nanos < limit.nanos) }

def tooLong : Response := .plain 413 "length limit exceeded"

/-- Refuses a body that is declared too long, and lets no more be read than declared. -/
def limitBody (limit : Nat) (inner : Head → List Frame → Reply) (q : Request) : Reply :=
  match q.declaredLength? with
  | none => inner q.toHead (framesWithin limit q.chunks)
  | some n =>
    if limit < n then { response := tooLong }
    else inner q.toHead (framesWithin (min limit n) q.chunks)

def idHeader : String := "x-request-id"

/-- A response that has no id gets the one of the request. -/
def propagateId (inner : Request → Reply) (q : Request) : Reply :=
  let reply := inner q
  match reply.response.headers.first? idHeader, q.headers.first? idHeader with
  | none, some id => { reply with response := reply.response.withHeader idHeader id }
  | _, _ => reply

/-- A request that brings no id gets a fresh one. -/
def setId (fresh : String) (inner : Request → Reply) (q : Request) : Reply :=
  match q.headers.first? idHeader with
  | some _ => inner q
  | none => inner { q with headers := q.headers ++ [(idHeader, fresh)] }

def layers (r : Router) (fresh : String) : Request → Reply :=
  setId fresh (propagateId (limitBody r.maxBodyBytes (giveUpAfter r.requestTimeout r.handle)))

/-- The length is that of the body, which is not sent when only the head was asked for. -/
def finish (q : Head) (r : Response) : Response :=
  let r := r.withHeader "content-length" (toString r.body.utf8ByteSize)
  if q.method == "HEAD" then { r with body := "" } else r

/-- The response to a request, given an id for one that brings none. Which methods a path knows is added
outside of the layers. -/
def respond (r : Router) (fresh : String) (q : Request) : Reply :=
  let reply := r.layers fresh q
  let response := { reply.response with headers := reply.response.headers ++ r.allowHeader q.toHead }
  { reply with response := finish q.toHead response }

end Router

end ServiceHost.Http
