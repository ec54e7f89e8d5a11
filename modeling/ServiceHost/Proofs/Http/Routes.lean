import ServiceHost.Config.Validation
import ServiceHost.Http.Router

/-! Which handler answers a request. The routes of an application stand beside those of the service, which
keep their own paths; what a router finds depends on patterns and verbs and not on handlers. -/

namespace ServiceHost.Http.Router

variable {r : Router} {q : Head}

/-! ## The routes of a router -/

/-- The service's routes and the application's. -/
theorem routes_of_ofOptions? {o : ServerOptions} {application : List Route}
    (built : ofOptions? o application = some r) :
    r = ⟨ping :: health :: application, o.maxBodyBytes, o.requestTimeout⟩ := by
  simp only [ofOptions?, Option.ite_none_right_eq_some, Option.some.injEq] at built
  exact built.2.symm

/-- A server's configuration sets the limits. -/
theorem limits_of_ofConfig {c : Config.Server} {application : List Route}
    (built : ofOptions? (.ofConfig c) application = some r) :
    r.maxBodyBytes = c.maxBodyBytes ∧ r.requestTimeout = .ofSecs c.requestTimeoutSecs := by
  rw [routes_of_ofOptions? built]
  exact ⟨rfl, rfl⟩

theorem requestTimeout_pos {c : Config.Server} {application : List Route}
    (built : ofOptions? (.ofConfig c) application = some r) (time : c.requestTimeoutSecs ≠ 0) :
    0 < r.requestTimeout.nanos := by
  rw [(limits_of_ofConfig built).2]
  exact Nat.mul_pos (Nat.pos_of_ne_zero time) (by decide)

/-- A configuration without problems gives requests time. -/
theorem requestTimeoutSecs_ne_zero {c : Config.Server} (accepted : c.problems = []) :
    c.requestTimeoutSecs ≠ 0 := by
  intro zero
  simp [Config.Server.problems, Config.checkPositive, zero] at accepted

theorem matching_subset (r : Router) (q : Head) : (r.matching q).1 ⊆ r.routes := by
  unfold matching
  simp only
  split
  · exact List.nil_subset _
  · exact fun route mem => (List.mem_filter.1 mem).1

/-! ## The route of a request -/

/-- The route that a request goes to, with its parameters. -/
def route? (r : Router) (q : Head) : Option (Route × Parameters) :=
  ((r.matching q).1.find? (·.verb.accepts q.method)).map fun route => (route, (r.matching q).2)

theorem mem_of_route? {route : Route} {ps : Parameters} (found : r.route? q = some (route, ps)) :
    route ∈ r.routes := by
  simp only [route?, Option.map_eq_some_iff, Prod.mk.injEq] at found
  obtain ⟨_, found, rfl, -⟩ := found
  exact matching_subset r q (List.mem_of_find?_eq_some found)

theorem handle_eq (r : Router) (q : Head) (fs : List Frame) :
    r.handle q fs =
      match r.route? q with
      | some (route, ps) => route.handler q ps fs
      | none => if (r.matching q).1.isEmpty then fallback q else { response := { status := 405 } } := by
  unfold handle route?
  rcases r.matching q with ⟨_ | ⟨first, rest⟩, ps⟩
  · rfl
  · simp only [List.isEmpty_cons, Bool.false_eq_true, if_false]
    cases (first :: rest).find? (·.verb.accepts q.method) <;> rfl

theorem handle_of_route? {route : Route} {ps : Parameters} (found : r.route? q = some (route, ps))
    (fs : List Frame) : r.handle q fs = route.handler q ps fs := by
  rw [handle_eq, found]

/-- Without a route a request is answered at once, for its path or its method. -/
theorem handle_of_no_route (lost : r.route? q = none) (fs : List Frame) :
    r.handle q fs = fallback q ∨ r.handle q fs = { response := { status := 405 } } := by
  rw [handle_eq, lost]
  dsimp only
  split
  · exact .inl rfl
  · exact .inr rfl

/-- No pattern goes before one exact segment. -/
theorem precedes_exact (pattern : List Segment) (s : String) : precedes pattern [.exact s] = false := by
  cases pattern with
  | nil => rfl
  | cons first rest => cases first <;> simp [precedes]

theorem foremost?_exact (s : String) (ps : Parameters) (rest : List (List Segment × Parameters)) :
    foremost? (([.exact s], ps) :: rest) = some ([.exact s], ps) := by
  rw [foremost?]
  split
  · rw [precedes_exact]
    rfl
  · rfl

/-- A path of one segment goes to the first route that has it, for the methods of this route. -/
theorem route?_of_exact (front : List Route) {rest : List Route} {route : Route} {s : String}
    (routes : r.routes = front ++ route :: rest) (pattern : route.pattern = [.exact s])
    (others : ∀ other ∈ front, matchSegments other.pattern [s] = none)
    (path : q.segments? = some [s]) (verb : route.verb.accepts q.method = true) :
    r.route? q = some (route, []) := by
  have passed : (front.filterMap fun other =>
      (matchSegments other.pattern [s]).map fun ps => (other.pattern, ps)) = [] := by
    rw [List.filterMap_eq_nil_iff]
    exact fun other mem => by rw [others other mem, Option.map_none]
  have unlike : front.filter (·.pattern == [.exact s]) = [] := by
    rw [List.filter_eq_nil_iff]
    intro other mem same
    have none := others other mem
    rw [beq_iff_eq.1 same] at none
    simp [matchSegments] at none
  have matched : r.matching q = (route :: rest.filter (·.pattern == [.exact s]), []) := by
    have first : matchSegments [.exact s] [s] = some [] := by simp [matchSegments]
    simp only [matching, path, routes, List.filterMap_append, passed, List.nil_append,
      List.filterMap_cons, pattern, first, Option.map_some, Option.bind_eq_bind, Option.bind_some,
      foremost?_exact, List.filter_append, unlike, List.filter_cons, BEq.rfl, if_true]
  simp only [route?, matched, List.find?_cons, verb, Option.map_some]

theorem segments?_of_path {q : Head} {s : String} {rest : List Char} (path : q.path = s)
    (front : s.toList = '/' :: rest) : q.segments? = some ((Text.split '/' rest).map String.ofList) := by
  have same : Head.pathOf q.target.toList = '/' :: rest := by
    rw [← front, ← path, Head.path, String.toList_ofList]
  simp only [Head.segments?, same]

/-- The service answers on its own paths at once, whatever the application adds to them. -/
theorem handle_of_own_path {o : ServerOptions} {application : List Route}
    (built : ofOptions? o application = some r) (own : q.path = "/ping" ∨ q.path = "/health")
    (read : q.method = "GET" ∨ q.method = "HEAD") (fs : List Frame) :
    ∃ response : Response, response.status = 200 ∧ r.handle q fs = { response } := by
  have routes := routes_of_ofOptions? built
  have verb : Verb.get.accepts q.method = true := by
    rcases read with get | head
    · rw [get]
      decide
    · rw [head]
      decide
  rcases own with path | path
  · have found : r.route? q = some (ping, []) :=
      route?_of_exact [] (by rw [routes]; rfl) rfl nofun (segments?_of_path path rfl) verb
    exact ⟨_, rfl, handle_of_route? found fs⟩
  · have found : r.route? q = some (health, []) :=
      route?_of_exact [ping] (by rw [routes]; rfl) rfl
        (by simp [ping, matchSegments]) (segments?_of_path path rfl) verb
    exact ⟨_, rfl, handle_of_route? found fs⟩

/-! ## Other handlers -/

/-- The same router with other handlers for its routes. -/
def withHandlers (r : Router) (handlers : Route → Handler) : Router :=
  { r with routes := r.routes.map fun route => { route with handler := handlers route } }

theorem matching_withHandlers (r : Router) (handlers : Route → Handler) (q : Head) :
    (r.withHandlers handlers).matching q =
      ((r.matching q).1.map fun route => { route with handler := handlers route }, (r.matching q).2) := by
  simp only [matching, withHandlers, List.filterMap_map, List.filter_map, Function.comp_def]
  split <;> rfl

theorem route?_withHandlers (r : Router) (handlers : Route → Handler) (q : Head) :
    (r.withHandlers handlers).route? q =
      (r.route? q).map fun hit => ({ hit.1 with handler := handlers hit.1 }, hit.2) := by
  simp only [route?, matching_withHandlers, List.find?_map, Function.comp_def, Option.map_map]

theorem allowHeader_withHandlers (r : Router) (handlers : Route → Handler) (q : Head) :
    (r.withHandlers handlers).allowHeader q = r.allowHeader q := by
  simp only [allowHeader, matching_withHandlers, List.isEmpty_map, List.any_map, List.flatMap_map,
    Function.comp_def]

/-- Handlers that make the same of what is read of the body give the same reply. -/
theorem handle_withHandlers {handlers : Route → Handler} {fs : List Frame}
    (same : ∀ route ∈ r.routes, ∀ q ps, handlers route q ps fs = route.handler q ps fs) :
    (r.withHandlers handlers).handle q fs = r.handle q fs := by
  rw [handle_eq, handle_eq, route?_withHandlers, matching_withHandlers, List.isEmpty_map]
  cases found : r.route? q with
  | none => rfl
  | some hit => exact same hit.1 (mem_of_route? found) q hit.2

end ServiceHost.Http.Router
