import ServiceHost.Proofs.Http.RequestId

/-! The time that a request may take. A reply that is there before the time is up is delivered when it is
there; any other is given up when the time is up, with what its handler would still have done. -/

namespace ServiceHost.Http.Router

variable {r : Router} {fresh : String} {q : Request} {bound : Nat}

/-- What a handler does in less than this time. -/
def doneBefore (limit : Duration) (deeds : List Deed) : List Deed :=
  deeds.filter (·.time.nanos < limit.nanos)

/-- What is answered when the time is up. -/
def givenUp (limit : Duration) (own : Reply) : Reply :=
  { response := { status := 408 }, delay := limit, deeds := doneBefore limit own.deeds }

/-- What is made of a request that is not refused, if it may take the time it needs. -/
def unhurried (r : Router) (fresh : String) (q : Request) (bound : Nat) : Reply :=
  r.handle (identified fresh q).toHead (framesWithin bound q.chunks)

theorem limited_eq (readable : q.readable? r.maxBodyBytes = some bound) :
    r.limited fresh q =
      if (r.unhurried fresh q bound).delay.nanos < r.requestTimeout.nanos then r.unhurried fresh q bound
      else givenUp r.requestTimeout (r.unhurried fresh q bound) :=
  limited_of_readable readable

theorem limited_in_time (r : Router) (fresh : String) (q : Request) :
    (r.limited fresh q).delay.nanos ≤ r.requestTimeout.nanos := by
  cases readable : q.readable? r.maxBodyBytes with
  | none =>
    rw [limited_of_too_long readable]
    exact Nat.zero_le _
  | some bound =>
    rw [limited_eq readable]
    split
    · next inTime => exact Nat.le_of_lt inTime
    · exact Nat.le_refl _

/-- The service answers the request itself: on a path of its own, or for want of a route. -/
def AnswersItself (r : Router) (q : Head) : Prop :=
  (q.path = "/ping" ∨ q.path = "/health") ∧ (q.method = "GET" ∨ q.method = "HEAD") ∨ r.route? q = none

/-- What the service answers itself is there at once, and is no timeout. -/
theorem unhurried_of_service {o : ServerOptions} {application : List Route}
    (built : ofOptions? o application = some r) (itself : r.AnswersItself q.toHead) (fresh : String)
    (bound : Nat) :
    (r.unhurried fresh q bound).delay = .zero ∧ (r.unhurried fresh q bound).response.status ≠ 408 := by
  unfold unhurried
  rcases itself with ⟨own, read⟩ | lost
  · obtain ⟨response, ok, handled⟩ := handle_of_own_path (q := (identified fresh q).toHead) built own read
      (framesWithin bound q.chunks)
    rw [handled]
    exact ⟨rfl, by simp [ok]⟩
  · rcases handle_of_no_route (q := (identified fresh q).toHead) lost (framesWithin bound q.chunks) with
      path | method
    · rw [path]
      exact ⟨rfl, (by decide : notFound.status ≠ 408)⟩
    · rw [method]
      exact ⟨rfl, by decide⟩

theorem service_never_times_out {o : ServerOptions} {application : List Route}
    (built : ofOptions? o application = some r) (time : 0 < r.requestTimeout.nanos)
    (itself : r.AnswersItself q.toHead) (fresh : String) : (r.respond fresh q).response.status ≠ 408 := by
  rw [(respond_delivers r fresh q).response.status]
  cases readable : q.readable? r.maxBodyBytes with
  | none =>
    rw [limited_of_too_long readable]
    decide
  | some bound =>
    obtain ⟨prompt, status⟩ := unhurried_of_service built itself fresh bound
    have inTime : (r.unhurried fresh q bound).delay.nanos < r.requestTimeout.nanos := by rwa [prompt]
    rwa [limited_eq readable, if_pos inTime]

theorem request_takes_no_longer_than_its_time {c : Config.Server} {application : List Route}
    (built : ofOptions? (.ofConfig c) application = some r) (fresh : String) (q : Request) :
    (∀ bound, q.readable? c.maxBodyBytes = some bound →
      let own := r.unhurried fresh q bound
      let limit := Duration.ofSecs c.requestTimeoutSecs
      (own.delay.nanos < limit.nanos → own.Delivers q.toHead (r.respond fresh q)) ∧
      (limit.nanos ≤ own.delay.nanos →
        (r.respond fresh q).response.status = 408 ∧ (r.respond fresh q).response.body = "" ∧
        (r.respond fresh q).response.headers.values idHeader = [(q.headers.first? idHeader).getD fresh] ∧
        (r.respond fresh q).delay = limit ∧
        (r.respond fresh q).deeds = doneBefore limit own.deeds) ∧
      (c.requestTimeoutSecs = 0 → (r.respond fresh q).response.status = 408)) ∧
    (r.respond fresh q).delay.nanos ≤ (Duration.ofSecs c.requestTimeoutSecs).nanos ∧
    (c.problems = [] → r.AnswersItself q.toHead → (r.respond fresh q).response.status ≠ 408) := by
  obtain ⟨most, timeout⟩ := limits_of_ofConfig built
  rw [← most, ← timeout]
  have delivered := respond_delivers r fresh q
  refine ⟨fun bound readable => ?_, ?longest, ?service⟩
  · have late (up : r.requestTimeout.nanos ≤ (r.unhurried fresh q bound).delay.nanos) :
        r.limited fresh q = givenUp r.requestTimeout (r.unhurried fresh q bound) := by
      rw [limited_eq readable, if_neg (Nat.not_lt.2 up)]
    refine ⟨fun inTime => ?_, fun up => ?_, fun zero => ?_⟩
    · rwa [limited_eq readable, if_pos inTime] at delivered
    · have id := respond_adds_id fresh q (by rw [late up]; rfl)
      rw [late up] at delivered
      refine ⟨delivered.response.status, ?_, id, delivered.delay, delivered.deeds⟩
      rw [delivered.response.body]
      split <;> rfl
    · rw [late (by rw [timeout, zero]; exact Nat.zero_le _)] at delivered
      exact delivered.response.status
  case longest =>
    rw [delivered.delay]
    exact limited_in_time r fresh q
  case service =>
    intro accepted itself
    exact service_never_times_out built (requestTimeout_pos built (requestTimeoutSecs_ne_zero accepted))
      itself fresh

theorem second_is_not_exceeded :
    let c : Config.Server := { requestTimeoutSecs := 1 }
    let quick : Request := { target := "/slow/999" }
    let tied : Request := { target := "/slow/1000", headers := [("x-request-id", "a")] }
    let lost : Request := { method := "PUT", target := "/none" }
    (∃ r, ofOptions? (.ofConfig c) Sample.routes = some r ∧
      (r.respond "id" quick).response.status = 200 ∧ (r.respond "id" quick).delay = .ofMillis 999 ∧
      (r.respond "id" tied).response.status = 408 ∧ (r.respond "id" tied).delay = .ofSecs 1 ∧
      (r.respond "id" tied).response.headers.values idHeader = ["a"] ∧
      (r.respond "id" lost).response.status ≠ 408) ∧
    ∃ r, ofOptions? (.ofConfig { c with requestTimeoutSecs := 0 }) Sample.routes = some r ∧
      (r.respond "id" lost).response.status = 408 ∧ (r.respond "id" lost).deeds = [] := by
  intro c quick tied lost
  refine ⟨?one, ?none⟩
  case one =>
    have built : ofOptions? (.ofConfig c) Sample.routes = some
        ⟨ping :: health :: Sample.routes, 2097152, .ofSecs 1⟩ := rfl
    obtain ⟨inTime, -, -⟩ := (request_takes_no_longer_than_its_time built "id" quick).1 2097152 rfl
    obtain ⟨-, up, -⟩ := (request_takes_no_longer_than_its_time built "id" tied).1 2097152 rfl
    have own := inTime (by decide +kernel)
    obtain ⟨status, -, id, delay, -⟩ := up (by decide +kernel)
    refine ⟨_, built, ?_, ?_, status, delay, id, ?_⟩
    · rw [own.response.status]
      decide +kernel
    · rw [own.delay]
      decide +kernel
    · have nowhere : Router.route? ⟨ping :: health :: Sample.routes, 2097152, .ofSecs 1⟩ lost.toHead = none :=
        Option.isNone_iff_eq_none.1 (by decide +kernel)
      exact (request_takes_no_longer_than_its_time built "id" lost).2.2 (by decide) (.inr nowhere)
  case none =>
    have built : ofOptions? (.ofConfig { c with requestTimeoutSecs := 0 }) Sample.routes = some
        ⟨ping :: health :: Sample.routes, 2097152, .ofSecs 0⟩ := rfl
    obtain ⟨-, up, zero⟩ := (request_takes_no_longer_than_its_time built "id" lost).1 2097152 rfl
    refine ⟨_, built, zero rfl, ?_⟩
    rw [(up (by decide +kernel)).2.2.2.2]
    decide +kernel

end ServiceHost.Http.Router
