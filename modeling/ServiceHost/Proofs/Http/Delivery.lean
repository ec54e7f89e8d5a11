import ServiceHost.Http.Router

/-! How a reply gets out. What the rules for every route make of a request is sent with headers added and is
not changed otherwise; what a handler is asked is the request with its id. -/

namespace ServiceHost.Http

/-- The response goes out with headers added behind its own, and without a body when only the head was asked
for. -/
structure Response.SentAs (q : Head) (own out : Response) : Prop where
  status : out.status = own.status
  headers : own.headers <+: out.headers
  body : out.body = if q.method = "HEAD" then "" else own.body

/-- The reply goes out at its time, and its handler does what it has to do. -/
structure Reply.Delivers (q : Head) (own out : Reply) : Prop where
  response : own.response.SentAs q out.response
  delay : out.delay = own.delay
  deeds : out.deeds = own.deeds

/-- How many bytes of the body may be read: no more than declared, and none when too many are declared. -/
def Head.readable? (limit : Nat) (q : Head) : Option Nat :=
  match q.declaredLength? with
  | none => some limit
  | some n => if limit < n then none else some n

theorem Head.readable?_eq_none {limit : Nat} {q : Head} :
    q.readable? limit = none ↔ ∃ n, q.declaredLength? = some n ∧ limit < n := by
  cases declared : q.declaredLength? <;> simp [readable?, declared]

theorem Head.le_of_readable? {limit bound : Nat} {q : Head} (readable : q.readable? limit = some bound) :
    bound ≤ limit ∧ ∀ n, q.declaredLength? = some n → bound ≤ n := by
  cases declared : q.declaredLength? with
  | none =>
    simp only [readable?, declared, Option.some.injEq] at readable
    exact ⟨Nat.le_of_eq readable.symm, nofun⟩
  | some n =>
    simp only [readable?, declared, Option.ite_none_left_eq_some, Option.some.injEq] at readable
    obtain ⟨short, rfl⟩ := readable
    exact ⟨Nat.le_of_not_lt short, fun m same => Nat.le_of_eq (Option.some.inj same)⟩

/-- An honest declaration, or none, leaves all of a body within the limit to be read. -/
theorem Head.readable?_of_declared {limit length : Nat} {q : Head}
    (declared : ∀ n, q.declaredLength? = some n → n = length) (fits : length ≤ limit) :
    ∃ bound, q.readable? limit = some bound ∧ length ≤ bound := by
  cases said : q.declaredLength? with
  | none => exact ⟨limit, by simp only [readable?, said], fits⟩
  | some n =>
    obtain rfl := declared n said
    exact ⟨n, by simp only [readable?, said, Nat.not_lt.2 fits, if_false], Nat.le_refl n⟩

namespace Router

variable {r : Router} {fresh : String} {q : Request}

/-! ## The request further in -/

/-- The headers with an id, their own or a fresh one. -/
def withId (fresh : String) (hs : Headers) : Headers :=
  match hs.first? idHeader with
  | some _ => hs
  | none => hs ++ [(idHeader, fresh)]

def identified (fresh : String) (q : Request) : Request := { q with headers := withId fresh q.headers }

theorem setId_eq (fresh : String) (inner : Request → Reply) (q : Request) :
    setId fresh inner q = inner (identified fresh q) := by
  cases brought : q.headers.first? idHeader <;> simp only [setId, identified, withId, brought]

/-- An id says nothing about the length of the body. -/
theorem identified_readable? (limit : Nat) (fresh : String) (q : Request) :
    (identified fresh q).readable? limit = q.readable? limit := by
  have other : Headers.named "content-length" (idHeader, fresh) = false := by
    change (idHeader.toList.map Char.toLower == "content-length".toList) = false
    decide
  have length : (withId fresh q.headers).first? "content-length" = q.headers.first? "content-length" := by
    unfold withId
    split
    · rfl
    · simp [Headers.first?, List.find?_append, other]
  simp only [Head.readable?, Head.declaredLength?, identified, length]

/-! ## The reply further out -/

theorem limitBody_eq (limit : Nat) (inner : Head → List Frame → Reply) (q : Request) :
    limitBody limit inner q =
      match q.readable? limit with
      | none => { response := tooLong }
      | some bound => inner q.toHead (framesWithin bound q.chunks) := by
  cases declared : q.declaredLength? with
  | none => simp only [limitBody, Head.readable?, declared]
  | some n =>
    by_cases long : limit < n
    · simp only [limitBody, Head.readable?, declared, long, if_true]
    · simp only [limitBody, Head.readable?, declared, long, if_false,
        Nat.min_eq_right (Nat.le_of_not_lt long)]

/-- What is made of a request below the ids. -/
def limited (r : Router) (fresh : String) (q : Request) : Reply :=
  limitBody r.maxBodyBytes (giveUpAfter r.requestTimeout r.handle) (identified fresh q)

theorem limited_of_too_long (long : q.readable? r.maxBodyBytes = none) :
    r.limited fresh q = { response := tooLong } := by
  rw [limited, limitBody_eq, identified_readable?, long]

theorem limited_of_readable {bound : Nat} (readable : q.readable? r.maxBodyBytes = some bound) :
    r.limited fresh q =
      giveUpAfter r.requestTimeout r.handle (identified fresh q).toHead (framesWithin bound q.chunks) := by
  rw [limited, limitBody_eq, identified_readable?, readable]
  rfl

theorem layers_eq (r : Router) (fresh : String) (q : Request) :
    r.layers fresh q = propagateId (fun _ => r.limited fresh q) (identified fresh q) := by
  rw [layers, setId_eq]
  rfl

theorem prefix_propagateId (inner : Request → Reply) (q : Request) :
    ∃ added, propagateId inner q =
      { inner q with
        response := { (inner q).response with headers := (inner q).response.headers ++ added } } := by
  unfold propagateId
  simp only
  split
  · exact ⟨_, rfl⟩
  · exact ⟨[], by rw [List.append_nil]⟩

theorem sentAs_finish (q : Head) (own : Response) (added : Headers) :
    own.SentAs q (finish q { own with headers := own.headers ++ added }) := by
  have behind (more : Headers) : own.headers <+: own.headers ++ added ++ more :=
    (List.prefix_append ..).trans (List.prefix_append ..)
  unfold finish
  by_cases head : q.method = "HEAD"
  · simp only [head, BEq.rfl, if_true]
    exact ⟨rfl, behind _, by rw [if_pos head]⟩
  · simp only [beq_eq_false_iff_ne.2 head, Bool.false_eq_true, if_false]
    exact ⟨rfl, behind _, by rw [if_neg head]; rfl⟩

theorem respond_delivers (r : Router) (fresh : String) (q : Request) :
    (r.limited fresh q).Delivers q.toHead (r.respond fresh q) := by
  obtain ⟨id, propagated⟩ := prefix_propagateId (fun _ => r.limited fresh q) (identified fresh q)
  simp only [respond, layers_eq, propagated, List.append_assoc]
  exact ⟨sentAs_finish _ _ _, rfl, rfl⟩

/-- Requests with one head, of which the same is made below the ids, get the same answer. -/
theorem respond_congr {s : Router} {p : Request} (same : s.limited fresh p = r.limited fresh q)
    (head : p.toHead = q.toHead) (allow : s.allowHeader q.toHead = r.allowHeader q.toHead) :
    s.respond fresh p = r.respond fresh q := by
  simp only [respond, layers_eq, propagateId, identified, same, head, allow]

end Router

end ServiceHost.Http
