import ServiceHost.Config.Validation
import ServiceHost.Http.Sample
import ServiceHost.Proofs.Http.Delivery
import ServiceHost.Proofs.Http.Routes

/-! Limits on request bodies. A body that is declared too long is refused before any handler; of another one
no handler gets more than the limit and the declared length allow, and a handler that takes bodies whole
refuses the rest. How a body is cut into chunks does not matter to such handlers. -/

namespace ServiceHost.Http

/-! ## Bodies in chunks -/

/-- The bytes that reading these frames gives. -/
def received : List Frame → List UInt8
  | [] => []
  | .data c :: rest => c ++ received rest
  | .overflow :: rest => received rest

theorem length_received_framesWithin (limit : Nat) (chunks : List (List UInt8)) :
    (received (framesWithin limit chunks)).length ≤ limit := by
  induction chunks generalizing limit with
  | nil => exact Nat.zero_le limit
  | cons c rest ih =>
    rw [framesWithin]
    split
    · exact Nat.zero_le limit
    · have := ih (limit - c.length)
      simp only [received, List.length_append]
      omega

/-- A body is collected whole if it stays within the limit of the reader and that of the collector. -/
theorem collect?_framesWithin (limit most : Nat) (chunks : List (List UInt8)) :
    collect? most (framesWithin limit chunks) =
      if chunks.flatten.length ≤ limit ∧ chunks.flatten.length ≤ most then some chunks.flatten
      else none := by
  induction chunks generalizing limit most with
  | nil => simp [framesWithin, collect?]
  | cons c rest ih =>
    rw [framesWithin, List.flatten_cons, List.length_append]
    by_cases exceeds : limit < c.length
    · rw [if_pos exceeds, if_neg (by omega), collect?]
    · rw [if_neg exceeds, collect?]
      by_cases more : most < c.length
      · rw [if_pos more, if_neg (by omega)]
      · rw [if_neg more, ih]
        by_cases fits : rest.flatten.length ≤ limit - c.length ∧ rest.flatten.length ≤ most - c.length
        · rw [if_pos fits, if_pos (by omega), Option.map_some]
        · rw [if_neg fits, if_neg (by omega), Option.map_none]

theorem wholeBody?_framesWithin (limit : Nat) (chunks : List (List UInt8)) :
    wholeBody? (framesWithin limit chunks) =
      if chunks.flatten.length ≤ limit ∧ chunks.flatten.length ≤ wholeBodyLimit then some chunks.flatten
      else none :=
  collect?_framesWithin limit wholeBodyLimit chunks

/-! ## Handlers -/

namespace Handler

/-- The handler takes the whole body, as bytes or as a text, before it does anything else. -/
inductive TakesBody : Handler → Prop
  | bytes (f : Head → Parameters → List UInt8 → Reply) : TakesBody fun q ps => ofBytes (f q ps) q ps
  | text (f : Head → Parameters → String → Reply) : TakesBody fun q ps => ofText (f q ps) q ps

/-- The handler reads the body whole or not at all. -/
def IgnoresChunks (h : Handler) : Prop :=
  ∀ q ps fs fs', wholeBody? fs = wholeBody? fs' → h q ps fs = h q ps fs'

theorem TakesBody.ignoresChunks {h : Handler} (takes : h.TakesBody) : h.IgnoresChunks := by
  intro q ps fs fs' same
  cases takes with
  | bytes f => simp only [ofBytes, same]
  | text f => simp only [ofText, ofBytes, same]

theorem ignoresChunks_constant (response : Response) : (constant response).IgnoresChunks :=
  fun _ _ _ _ _ => rfl

theorem ignoresChunks_ofNumber (name typeName : String) (max : Nat) (f : Nat → Reply) :
    (ofNumber name typeName max f).IgnoresChunks :=
  fun _ _ _ _ _ => rfl

/-- The handler takes the body whole, and this is what it makes of it. -/
inductive MakesOf : Handler → Head → Parameters → List UInt8 → Reply → Prop
  | bytes (f : Head → Parameters → List UInt8 → Reply) (q : Head) (ps : Parameters) (body : List UInt8) :
      MakesOf (fun q ps => ofBytes (f q ps) q ps) q ps body (f q ps body)
  | text (f : Head → Parameters → String → Reply) (q : Head) (ps : Parameters) {body : List UInt8} {s : String}
      (valid : Text.Utf8.decode body = .ok s) : MakesOf (fun q ps => ofText (f q ps) q ps) q ps body (f q ps s)

theorem MakesOf.takesBody {h : Handler} {q : Head} {ps : Parameters} {body : List UInt8} {reply : Reply}
    (makes : h.MakesOf q ps body reply) : h.TakesBody := by
  cases makes with
  | bytes f => exact .bytes f
  | text f => exact .text f

theorem MakesOf.reply {h : Handler} {q : Head} {ps : Parameters} {body : List UInt8} {reply : Reply}
    (makes : h.MakesOf q ps body reply) {fs : List Frame} (whole : wholeBody? fs = some body) :
    h q ps fs = reply := by
  cases makes with
  | bytes f => simp only [ofBytes, whole]
  | text f _ _ valid => simp only [ofText, ofBytes, whole, valid]

/-- A body that cannot be taken whole is refused. -/
theorem TakesBody.refuses {h : Handler} (takes : h.TakesBody) {fs : List Frame}
    (long : wholeBody? fs = none) (q : Head) (ps : Parameters) : h q ps fs = { response := bodyTooLong } := by
  cases takes with
  | bytes f => simp only [ofBytes, long]
  | text f => simp only [ofText, ofBytes, long]

end Handler

namespace Router

variable {r : Router} {fresh : String} {q : Request} {bound : Nat}

/-! ## What handlers get -/

/-- A body that is declared too long is refused, and no handler does anything. -/
theorem respond_of_too_long (long : q.readable? r.maxBodyBytes = none) (fresh : String) :
    Reply.Delivers q.toHead { response := tooLong } (r.respond fresh q) := by
  have delivered := respond_delivers r fresh q
  rwa [limited_of_too_long long] at delivered

/-- A refused request is answered in the same way whatever the handlers are. -/
theorem respond_ignores_handlers (long : q.readable? r.maxBodyBytes = none) (handlers : Route → Handler) :
    (r.withHandlers handlers).respond fresh q = r.respond fresh q := by
  refine respond_congr ?_ rfl (allowHeader_withHandlers ..)
  rw [limited_of_too_long long, limited_of_too_long (r := r.withHandlers handlers) long]

/-- What handlers would make of more than may be read does not show. -/
theorem respond_reads_within (readable : q.readable? r.maxBodyBytes = some bound) {handlers : Route → Handler}
    (same : ∀ route ∈ r.routes, ∀ p ps fs, (received fs).length ≤ bound →
      handlers route p ps fs = route.handler p ps fs) :
    (r.withHandlers handlers).respond fresh q = r.respond fresh q := by
  refine respond_congr ?_ rfl (allowHeader_withHandlers ..)
  have handled := handle_withHandlers (q := (identified fresh q).toHead) fun route mem p ps =>
    same route mem p ps _ (length_received_framesWithin bound q.chunks)
  rw [limited_of_readable readable, limited_of_readable (r := r.withHandlers handlers) readable]
  simp only [giveUpAfter, handled]
  rfl

/-- What the route of a request makes of it at once is delivered, unless there is no time at all. -/
theorem respond_of_route {route : Route} {ps : Parameters} {reply : Reply}
    (readable : q.readable? r.maxBodyBytes = some bound) (time : 0 < r.requestTimeout.nanos)
    (found : r.route? q.toHead = some (route, ps))
    (made : route.handler (identified fresh q).toHead ps (framesWithin bound q.chunks) = reply)
    (prompt : reply.delay = .zero) : reply.Delivers q.toHead (r.respond fresh q) := by
  have delivered := respond_delivers r fresh q
  have handled : r.handle (identified fresh q).toHead (framesWithin bound q.chunks) = reply :=
    (handle_of_route? (r := r) (q := (identified fresh q).toHead) found _).trans made
  rw [limited_of_readable readable] at delivered
  simpa only [giveUpAfter, handled, prompt, Duration.zero, time, if_true] using delivered

/-! ## Chunks -/

theorem respond_ignores_chunks
    (ignore : ∀ route ps, r.route? q.toHead = some (route, ps) → route.handler.IgnoresChunks) {p : Request}
    (head : p.toHead = q.toHead) (body : p.chunks.flatten = q.chunks.flatten) :
    r.respond fresh p = r.respond fresh q := by
  refine respond_congr ?_ head rfl
  have readable : p.readable? r.maxBodyBytes = q.readable? r.maxBodyBytes := by rw [head]
  have identified : (identified fresh p).toHead = (identified fresh q).toHead := by
    simp only [Router.identified, head]
  cases may : q.readable? r.maxBodyBytes with
  | none => rw [limited_of_too_long may, limited_of_too_long (readable.trans may)]
  | some n =>
    have same : wholeBody? (framesWithin n p.chunks) = wholeBody? (framesWithin n q.chunks) := by
      rw [wholeBody?_framesWithin, wholeBody?_framesWithin, body]
    have handled : r.handle (Router.identified fresh q).toHead (framesWithin n p.chunks) =
        r.handle (Router.identified fresh q).toHead (framesWithin n q.chunks) := by
      rw [handle_eq, handle_eq]
      cases found : r.route? (Router.identified fresh q).toHead with
      | none => rfl
      | some hit => exact ignore hit.1 hit.2 found _ _ _ _ same
    rw [limited_of_readable may, limited_of_readable (readable.trans may), identified]
    simp only [giveUpAfter, handled]

/-- No handler of the sample application minds chunks, nor do those of the service. -/
theorem sample_ignoresChunks : ∀ route ∈ ping :: health :: Sample.routes, route.handler.IgnoresChunks := by
  simp only [Sample.routes, List.forall_mem_cons, List.not_mem_nil, false_imp_iff, implies_true, and_true]
  refine ⟨?ping, ?health, ?hello, ?echo, ?len, ?slow, ?fail, ?invalid, ?code⟩
  case echo =>
    exact Handler.TakesBody.ignoresChunks (.text fun _ _ s => { response := Sample.text (.success s) })
  case len =>
    exact Handler.TakesBody.ignoresChunks
      (.bytes fun _ _ b => { response := Sample.word (.success (UInt64.ofNat b.length)) })
  case slow | code => exact Handler.ignoresChunks_ofNumber _ _ _ _
  all_goals exact Handler.ignoresChunks_constant _

/-! ## The limit of a server -/

theorem body_stays_within_limit {c : Config.Server} {application : List Route}
    (built : ofOptions? (.ofConfig c) application = some r) (fresh : String) (q : Request) :
    (∀ n, q.declaredLength? = some n → c.maxBodyBytes < n →
      (r.respond fresh q).response.status = 413 ∧
      Reply.Delivers q.toHead { response := tooLong } (r.respond fresh q) ∧
      ∀ handlers, (r.withHandlers handlers).respond fresh q = r.respond fresh q) ∧
    (∀ bound, q.readable? c.maxBodyBytes = some bound →
      (bound ≤ c.maxBodyBytes ∧ ∀ n, q.declaredLength? = some n → bound ≤ n) ∧
      (∀ handlers, (∀ route ∈ r.routes, ∀ p ps fs, (received fs).length ≤ bound →
          handlers route p ps fs = route.handler p ps fs) →
        (r.withHandlers handlers).respond fresh q = r.respond fresh q) ∧
      (c.requestTimeoutSecs ≠ 0 → ∀ route ps, r.route? q.toHead = some (route, ps) →
        route.handler.TakesBody → bound < q.chunks.flatten.length →
        (r.respond fresh q).response.status = 413 ∧
        Reply.Delivers q.toHead { response := Handler.bodyTooLong } (r.respond fresh q))) ∧
    ((∀ route ps, r.route? q.toHead = some (route, ps) → route.handler.IgnoresChunks) →
      ∀ p : Request, p.toHead = q.toHead → p.chunks.flatten = q.chunks.flatten →
        r.respond fresh p = r.respond fresh q) := by
  rw [← (limits_of_ofConfig built).1]
  refine ⟨?refused, ?read, ?cut⟩
  case refused =>
    intro n declared long
    have refused : q.readable? r.maxBodyBytes = none := Head.readable?_eq_none.2 ⟨n, declared, long⟩
    have delivered := respond_of_too_long refused fresh
    exact ⟨delivered.response.status, delivered, respond_ignores_handlers refused⟩
  case read =>
    intro bound readable
    refine ⟨Head.le_of_readable? readable, fun handlers same => respond_reads_within readable same, ?_⟩
    intro time route ps found takes long
    have untaken : wholeBody? (framesWithin bound q.chunks) = none := by
      rw [wholeBody?_framesWithin, if_neg (by omega)]
    have delivered : Reply.Delivers q.toHead { response := Handler.bodyTooLong } (r.respond fresh q) :=
      respond_of_route readable (requestTimeout_pos built time) found (takes.refuses untaken _ ps) rfl
    exact ⟨delivered.response.status, delivered⟩
  case cut => exact fun ignore p => respond_ignores_chunks ignore

theorem body_of_five_bytes_is_refused :
    let c : Config.Server := { maxBodyBytes := 4 }
    let declared : Request := { target := "/none", headers := [("content-length", "5")] }
    let late : Request :=
      { method := "POST", target := "/echo", chunks := [[0x61, 0x62, 0x63], [], [0xff, 0x65]] }
    let uncut : Request := { late with chunks := [[0x61, 0x62, 0x63, 0xff, 0x65]] }
    ∃ r, ofOptions? (.ofConfig c) Sample.routes = some r ∧
      Reply.Delivers declared.toHead { response := tooLong } (r.respond "id" declared) ∧
      r.route? late.toHead = some (Sample.echo, []) ∧
      Reply.Delivers late.toHead { response := Handler.bodyTooLong } (r.respond "id" late) ∧
      r.respond "id" uncut = r.respond "id" late := by
  intro c declared late uncut
  have built : ofOptions? (.ofConfig c) Sample.routes = some
      ⟨ping :: health :: Sample.routes, 4, .ofSecs 30⟩ := rfl
  have takes : Sample.echo.handler.TakesBody :=
    .text fun _ _ s => { response := Sample.text (.success s) }
  have found : Router.route? ⟨ping :: health :: Sample.routes, 4, .ofSecs 30⟩ late.toHead =
      some (Sample.echo, []) :=
    route?_of_exact [ping, health, Sample.hello] rfl rfl
      (by simp [ping, health, Sample.hello, matchSegments])
      (segments?_of_path (by decide : late.path = "/echo") rfl) (by decide)
  obtain ⟨refused, -, -⟩ := body_stays_within_limit built "id" declared
  obtain ⟨-, read, cut⟩ := body_stays_within_limit built "id" late
  refine ⟨_, built, (refused 5 (by decide) (by decide)).2.1, found, ?_, ?_⟩
  · exact ((read 4 rfl).2.2 (by decide) _ _ found takes (by decide)).2
  · exact cut (fun route ps hit => sample_ignoresChunks route (mem_of_route? hit)) uncut rfl rfl

/-! ## Two limits -/

/-- A body within the configured limit reaches the handler that takes it whole if it is within the limit for
whole bodies too, and is refused otherwise. -/
theorem whole_body_needs_both_limits {c : Config} {application : List Route} (accepted : c.problems = [])
    (built : ofOptions? (.ofConfig c.server) application = some r) (fresh : String) {q : Request}
    {route : Route} {ps : Parameters} {reply : Reply} (found : r.route? q.toHead = some (route, ps))
    (declared : ∀ n, q.declaredLength? = some n → n = q.chunks.flatten.length)
    (fits : q.chunks.flatten.length ≤ c.server.maxBodyBytes)
    (makes : route.handler.MakesOf (identified fresh q).toHead ps q.chunks.flatten reply)
    (prompt : reply.delay = .zero) :
    if q.chunks.flatten.length ≤ wholeBodyLimit then reply.Delivers q.toHead (r.respond fresh q)
    else Reply.Delivers q.toHead { response := Handler.bodyTooLong } (r.respond fresh q) := by
  have server : c.server.problems = [] := by
    simp only [Config.problems, List.append_eq_nil_iff] at accepted
    exact accepted.1.1.1
  have time := requestTimeout_pos built (requestTimeoutSecs_ne_zero server)
  rw [← (limits_of_ofConfig built).1] at fits
  obtain ⟨bound, readable, room⟩ := Head.readable?_of_declared declared fits
  have taken := wholeBody?_framesWithin bound q.chunks
  split
  · next short =>
    rw [if_pos ⟨room, short⟩] at taken
    exact respond_of_route readable time found (makes.reply taken) prompt
  · next long =>
    rw [if_neg fun fit => long fit.2] at taken
    exact respond_of_route readable time found (makes.takesBody.refuses taken _ ps) rfl

theorem route?_len (most : Nat) {q : Head} (path : q.path = "/len") (post : q.method = "POST") :
    Router.route? ⟨ping :: health :: Sample.routes, most, .ofSecs 30⟩ q = some (Sample.len, []) :=
  route?_of_exact [ping, health, Sample.hello, Sample.echo] rfl rfl
    (by simp [ping, health, Sample.hello, Sample.echo, matchSegments]) (segments?_of_path path rfl)
    (by rw [post]; decide)

theorem short_body_reaches_its_handler :
    let c : Config := { server := { maxBodyBytes := 4000000 } }
    let q : Request := { method := "POST", target := "/len", chunks := [[0x61], [], [0x62, 0x63]] }
    ∃ r, ofOptions? (.ofConfig c.server) Sample.routes = some r ∧ c.problems = [] ∧
      r.route? q.toHead = some (Sample.len, []) ∧
      Reply.Delivers q.toHead { response := Sample.word (.success 3) } (r.respond "id" q) := by
  intro c q
  have built : ofOptions? (.ofConfig c.server) Sample.routes = some
      ⟨ping :: health :: Sample.routes, 4000000, .ofSecs 30⟩ := rfl
  have accepted : c.problems = [] := by decide
  have found := route?_len 4000000 (q := q.toHead) (by decide) rfl
  have makes : Sample.len.handler.MakesOf (identified "id" q).toHead [] q.chunks.flatten
      { response := Sample.word (.success 3) } := .bytes _ _ _ _
  refine ⟨_, built, accepted, found, ?_⟩
  exact whole_body_needs_both_limits accepted built "id" found nofun (by decide) makes rfl

/-- A configured limit above the one for whole bodies is not the limit in force. -/
theorem configured_limit_is_not_in_force :
    let c : Config := { server := { maxBodyBytes := 2097153 } }
    let q : Request := { method := "POST", target := "/len", chunks := [.replicate 2097153 0x7a] }
    c.problems = [] ∧ q.declaredLength? = none ∧ q.chunks.flatten.length = c.server.maxBodyBytes ∧
      ∃ r, ofOptions? (.ofConfig c.server) Sample.routes = some r ∧
        r.route? q.toHead = some (Sample.len, []) ∧
        (∃ reply, Sample.len.handler.MakesOf (identified "id" q).toHead [] q.chunks.flatten reply ∧
          reply.delay = .zero ∧ reply.response.status = 200) ∧
        (r.respond "id" q).response.status = 413 := by
  intro c q
  have built : ofOptions? (.ofConfig c.server) Sample.routes = some
      ⟨ping :: health :: Sample.routes, 2097153, .ofSecs 30⟩ := rfl
  have length : q.chunks.flatten.length = 2097153 := by
    simp only [q, List.flatten_cons, List.flatten_nil, List.append_nil, List.length_replicate]
  have found := route?_len 2097153 (q := q.toHead) (by decide) rfl
  have makes : Sample.len.handler.MakesOf (identified "id" q).toHead [] q.chunks.flatten
      { response := Sample.word (.success (UInt64.ofNat q.chunks.flatten.length)) } := .bytes _ _ _ _
  have untaken : wholeBody? (framesWithin 2097153 q.chunks) = none := by
    rw [wholeBody?_framesWithin, length, wholeBodyLimit, if_neg (by decide)]
  refine ⟨by decide, rfl, length, _, built, found, ⟨_, makes, rfl, rfl⟩, ?_⟩
  have delivered : Reply.Delivers q.toHead { response := Handler.bodyTooLong }
      (Router.respond ⟨ping :: health :: Sample.routes, 2097153, .ofSecs 30⟩ "id" q) :=
    respond_of_route rfl (by decide) found (makes.takesBody.refuses untaken _ []) rfl
  exact delivered.response.status

end Router

end ServiceHost.Http
