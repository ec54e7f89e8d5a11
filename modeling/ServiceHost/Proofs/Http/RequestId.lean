import ServiceHost.Http.Sample
import ServiceHost.Proofs.Http.Delivery
import ServiceHost.Proofs.Http.Routes

/-! Request ids. Whatever answers a request under the layer that propagates ids, a handler, the fallback or
a layer further in, the response leaves the router with exactly one id: that of the request, or a fresh one
when the request brings none. -/

namespace ServiceHost.Http

/-! ## Headers -/

namespace Headers

theorem first?_eq_head? (hs : Headers) (name : String) : hs.first? name = (hs.values name).head? := by
  rw [first?, values, List.head?_map, List.head?_filter]

@[simp]
theorem values_append (hs more : Headers) (name : String) :
    (hs ++ more).values name = hs.values name ++ more.values name := by
  simp [values]

theorem values_single (key value name : String) :
    values [(key, value)] name =
      if key.toList.map Char.toLower = name.toList then [value] else [] := by
  simp only [values, named, List.filter_cons, beq_iff_eq, List.filter_nil]
  split <;> rfl

end Headers

/-! ## Replies without an id -/

/-- No id has been put on the reply. -/
def Reply.Anonymous (reply : Reply) : Prop := reply.response.headers.values Router.idHeader = []

/-- Whatever it is asked, the handler puts no id on its reply. -/
def Handler.Anonymous (handler : Handler) : Prop :=
  ∀ q ps fs, (handler q ps fs).Anonymous

theorem anonymous_response {α : Type} (f : Format α) (e : Envelope α) (delay : Duration)
    (deeds : List Deed) : Reply.Anonymous ⟨e.response f, delay, deeds⟩ := rfl

theorem anonymous_plain (status : Nat) (body : String) (delay : Duration) (deeds : List Deed) :
    Reply.Anonymous ⟨.plain status body, delay, deeds⟩ := rfl

theorem anonymous_ofNumber {name typeName : String} {max : Nat} {f : Nat → Reply}
    (anonymous : ∀ n, (f n).Anonymous) : (Handler.ofNumber name typeName max f).Anonymous := by
  intro q ps fs
  unfold Handler.ofNumber
  split
  · exact anonymous_plain ..
  · split
    · exact anonymous_plain ..
    · split
      · exact anonymous _
      · exact anonymous_plain ..

theorem anonymous_ofBytes {f : List UInt8 → Reply} (anonymous : ∀ bytes, (f bytes).Anonymous) :
    (Handler.ofBytes f).Anonymous := by
  intro q ps fs
  unfold Handler.ofBytes
  split
  · exact anonymous_plain ..
  · exact anonymous _

theorem anonymous_ofText {f : String → Reply} (anonymous : ∀ s, (f s).Anonymous) :
    (Handler.ofText f).Anonymous := by
  refine anonymous_ofBytes fun bytes => ?_
  split
  · exact anonymous _
  · exact anonymous_plain ..

namespace Router

variable {r : Router}

theorem anonymous_of_ofOptions? {o : ServerOptions} {application : List Route}
    (built : ofOptions? o application = some r)
    (anonymous : ∀ route ∈ application, route.handler.Anonymous) :
    ∀ route ∈ r.routes, route.handler.Anonymous := by
  rw [routes_of_ofOptions? built]
  simp only [List.forall_mem_cons]
  exact ⟨fun _ _ _ => anonymous_response .., fun _ _ _ => anonymous_response .., anonymous⟩

theorem anonymous_handle (anonymous : ∀ route ∈ r.routes, route.handler.Anonymous) (q : Head)
    (fs : List Frame) : (r.handle q fs).Anonymous := by
  cases found : r.route? q with
  | none =>
    rcases handle_of_no_route found fs with path | method
    · rw [path]
      exact anonymous_response ..
    · rw [method]
      rfl
  | some hit =>
    rw [handle_of_route? found]
    exact anonymous hit.1 (mem_of_route? found) q hit.2 fs

/-! ## Layers -/

theorem values_idHeader (id : String) : Headers.values [(idHeader, id)] idHeader = [id] := by
  rw [Headers.values_single, if_pos (by decide)]

theorem anonymous_giveUpAfter {limit : Duration} {inner : Head → List Frame → Reply} {q : Head}
    {fs : List Frame} (anonymous : (inner q fs).Anonymous) :
    (giveUpAfter limit inner q fs).Anonymous := by
  unfold giveUpAfter
  simp only
  split
  · exact anonymous
  · rfl

theorem anonymous_limitBody {limit : Nat} {inner : Head → List Frame → Reply}
    (anonymous : ∀ q fs, (inner q fs).Anonymous) (q : Request) :
    (limitBody limit inner q).Anonymous := by
  unfold limitBody
  split
  · exact anonymous ..
  · split
    · exact anonymous_plain ..
    · exact anonymous ..

theorem values_propagateId {inner : Request → Reply} {q : Request} {id : String}
    (anonymous : (inner q).Anonymous) (brought : q.headers.first? idHeader = some id) :
    (propagateId inner q).response.headers.values idHeader = [id] := by
  have none : (inner q).response.headers.first? idHeader = none := by
    rw [Headers.first?_eq_head?, anonymous]
    rfl
  simp only [propagateId, none, brought, Response.withHeader, Headers.values_append, values_idHeader]
  rw [anonymous, List.nil_append]

/-- Further in, a request has an id: its own, or the fresh one. -/
theorem first?_identified (fresh : String) (q : Request) :
    (identified fresh q).headers.first? idHeader = some ((q.headers.first? idHeader).getD fresh) := by
  cases own : q.headers.first? idHeader with
  | some id => simp only [identified, withId, own, Option.getD_some]
  | none =>
    have lacking : q.headers.values idHeader = [] := by
      rwa [Headers.first?_eq_head?, List.head?_eq_none_iff] at own
    simp only [identified, withId, own, Option.getD_none]
    rw [Headers.first?_eq_head?, Headers.values_append, lacking, values_idHeader]
    rfl

/-- A reply without an id gets the one of the request. -/
theorem layers_add_id (fresh : String) (q : Request) (anonymous : (r.limited fresh q).Anonymous) :
    (r.layers fresh q).response.headers.values idHeader =
      [(q.headers.first? idHeader).getD fresh] := by
  rw [layers_eq]
  exact values_propagateId anonymous (first?_identified fresh q)

/-! ## Outside of the layers -/

theorem values_allowHeader (r : Router) (q : Head) : (r.allowHeader q).values idHeader = [] := by
  unfold allowHeader
  simp only
  split
  · rfl
  · rw [Headers.values_single, if_neg (by decide)]

theorem values_finish (q : Head) (response : Response) :
    (finish q response).headers.values idHeader = response.headers.values idHeader := by
  have length (n : String) : (response.withHeader "content-length" n).headers.values idHeader =
      response.headers.values idHeader := by
    rw [Response.withHeader, Headers.values_append, Headers.values_single, if_neg (by decide),
      List.append_nil]
  unfold finish
  simp only
  split <;> exact length _

theorem respond_adds_id (fresh : String) (q : Request) (anonymous : (r.limited fresh q).Anonymous) :
    (r.respond fresh q).response.headers.values idHeader =
      [(q.headers.first? idHeader).getD fresh] := by
  rw [respond]
  simp only [values_finish, Headers.values_append, values_allowHeader, List.append_nil]
  exact layers_add_id fresh q anonymous

theorem response_carries_one_id {o : ServerOptions} {application : List Route} {r : Router}
    (built : ofOptions? o application = some r)
    (anonymous : ∀ route ∈ application, route.handler.Anonymous) (fresh : String) (q : Request) :
    (r.respond fresh q).response.headers.values idHeader =
      [(q.headers.first? idHeader).getD fresh] := by
  have inside := anonymous_handle (anonymous_of_ofOptions? built anonymous)
  exact respond_adds_id fresh q (anonymous_limitBody (fun q fs => anonymous_giveUpAfter (inside q fs)) _)

theorem anonymous_sample : ∀ route ∈ Sample.routes, route.handler.Anonymous := by
  simp only [Sample.routes, List.forall_mem_cons]
  refine ⟨?hello, ?echo, ?len, ?slow, ?fail, ?invalid, ?code, by simp⟩
  case hello | fail | invalid => exact fun _ _ _ => anonymous_response ..
  case echo => exact anonymous_ofText fun _ => anonymous_response ..
  case len => exact anonymous_ofBytes fun _ => anonymous_response ..
  case slow | code => exact anonymous_ofNumber fun _ => anonymous_response ..

theorem each_kind_of_refusal_carries_its_id :
    let o := { ServerOptions.new "127.0.0.1:0" with maxBodyBytes := 4 }
    let unknown : Request :=
      { target := "/none", headers := [("X-Request-Id", "a"), ("x-request-id", "b")] }
    let wrongMethod : Request := { method := "PUT", target := "/hello" }
    let slow : Request := { target := "/slow/86400000" }
    let declaredLong : Request := { target := "/ping", headers := [("content-length", "5")] }
    let foundLong : Request :=
      { method := "POST", target := "/echo", chunks := [[0x61, 0x62, 0x63], [0x64, 0x65]] }
    ∃ r, ofOptions? o Sample.routes = some r ∧
      [unknown, wrongMethod, slow, declaredLong, foundLong].map
        (fun q => (r.respond "fresh" q).response.status) = [404, 405, 408, 413, 413] ∧
      [unknown, wrongMethod, slow, declaredLong, foundLong].map
        (fun q => (r.respond "fresh" q).response.headers.values idHeader) =
          [["a"], ["fresh"], ["fresh"], ["fresh"], ["fresh"]] := by
  intro o unknown wrongMethod slow declaredLong foundLong
  have built : ofOptions? o Sample.routes = some
      ⟨ping :: health :: Sample.routes, o.maxBodyBytes, o.requestTimeout⟩ := by
    rfl
  refine ⟨_, built, by decide +kernel, ?_⟩
  have one := response_carries_one_id built anonymous_sample "fresh"
  simp only [List.map_cons, List.map_nil, one]
  rfl

end Router

end ServiceHost.Http
