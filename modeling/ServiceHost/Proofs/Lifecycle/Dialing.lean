import Mathlib.Data.List.Chain
import ServiceHost.Proofs.Lifecycle.Late
import ServiceHost.Proofs.Lifecycle.Moments
import ServiceHost.Proofs.Lifecycle.Parts
import ServiceHost.Proofs.Lifecycle.Sharing

/-! A client of the coordination service. Its start dials the endpoints one after another and holds the connection
to the first that answers; its close lets go of the connection, whatever the other side says to that. -/

namespace ServiceHost

/-! ## How a client is set up -/

namespace Coordination.ClientOptions

/-- Options that were built by giving these endpoints, in this order. -/
inductive Built : ClientOptions → List String → Prop where
  | new : Built {} []
  | ofConfig (c : Config.Coordination) : Built (.ofConfig c) c.endpoints
  | addEndpoint {o given} (endpoint : String) : Built o given → Built (o.addEndpoint endpoint) (given ++ [endpoint])
  | addEndpoints {o given} (endpoints : List String) : Built o given →
      Built (o.addEndpoints endpoints) (given ++ endpoints)

namespace Built

variable {o : ClientOptions} {given : List String}

theorem endpoints (built : Built o given) : o.endpoints = given := by
  induction built with
  | new => rfl
  | ofConfig c => rfl
  | addEndpoint endpoint _ ih => exact congrArg (· ++ [endpoint]) ih
  | addEndpoints endpoints _ ih => exact congrArg (· ++ endpoints) ih

/-- Only whole seconds are configured. -/
theorem ceilMillis (built : Built o given) : o.dialTimeout.ceilMillis * 1000000 = o.dialTimeout.nanos := by
  have whole (n : Nat) : (n * 1000000000 + 999999) / 1000000 * 1000000 = n * 1000000000 := by omega
  induction built with
  | new => exact whole 5
  | ofConfig c => exact whole c.dialTimeoutSecs
  | addEndpoint _ _ ih => exact ih
  | addEndpoints _ _ ih => exact ih

end Built

end Coordination.ClientOptions

/-! ## Answers in time -/

namespace Net.Answer

/-- What comes within so many milliseconds. -/
def inTime (limit : Nat) : Answer → Option (Except Failure Unit)
  | after ms result => if ms ≤ limit then some result else none
  | never => none

/-- How long it is waited for. -/
def wait (limit : Nat) : Answer → Nat
  | after ms _ => min ms limit
  | never => limit

theorem wait_le (limit : Nat) (a : Answer) : a.wait limit ≤ limit := by
  cases a with
  | after ms result => exact Nat.min_le_right _ _
  | never => exact Nat.le_refl _

end Net.Answer

namespace Lifecycle

open Relation Routine

variable {E : Host → Host → Prop} {h h' g : Host} {t : TaskId} {r : ResourceId}

namespace Dialing

/-- Others do not end this, and neither does time. -/
structure Persists (E : Host → Host → Prop) (K : Host → Prop) : Prop where
  others : ∀ {a b}, E a b → K a → K b
  tick : ∀ {a : Host} {n : Instant}, K a → K { a with now := n }

namespace Persists

variable {K : Host → Prop} {signals : List Signal}

theorem after (p : Persists E K) (o : Others E h h') : K h → K h' := o.preserve p.others

theorem waits (p : Persists E K) (w : Waits E signals h h') : K h → K h' :=
  w.preserve p.others fun tick before => by
    obtain ⟨n, -, -, rfl⟩ := tick
    exact p.tick before

end Persists

/-- Time does not pass while the others move, and they leave the client alone. -/
structure Apart (E : Host → Host → Prop) (r : ResourceId) : Prop where
  now : ∀ {a b}, E a b → b.now = a.now
  resource : ∀ {a b}, E a b → b.resource? r = a.resource? r

theorem Apart.client (apart : Apart E r) (v : Option Client) : Persists E fun g => g.client? r = v := by
  refine ⟨fun {a b} e before => ?_, id⟩
  rw [Host.client?, apart.resource e]
  exact before

theorem persists_report (silent : ∀ {a b}, E a b → b.report? t = a.report? t)
    (v : Option (Option (Except ResourceError Unit))) : Persists E fun g => g.report? t = v :=
  ⟨fun e before => (silent e).trans before, id⟩

theorem now_of_late {n d now : Nat} (later : n ≤ now) (due : d ≤ now) (bounded : now ≤ d ∨ now = n) :
    now = n + (d - n) := by omega

theorem now_of_answered {n d ms now : Nat} (due : n + ms ≤ now) (first : now ≤ n + ms ∨ now = n)
    (second : now ≤ d ∨ now = n) : now = n + ms ∧ ms ≤ d - n := by omega

section
variable {K : Host → Prop} (p : Persists E K) (still : ∀ {a b}, E a b → b.now = a.now)
include p still

/-- An answer is waited for until the deadline, while the others move. -/
theorem returns_awaitAnswer (a : Net.Answer) (d : Instant) (holds : K h) :
    (Routine.within d (awaitAnswer a)).Returns E K h fun x h' =>
      x = a.inTime (d - h.now) ∧ h'.now = h.now + a.wait (d - h.now) ∧ Waits E [] h h' := by
  cases a with
  | never =>
    refine ⟨fun _ => ⟨d, List.mem_singleton.2 rfl⟩, fun h' w => ⟨p.waits w holds, fun i picks => ?_⟩⟩
    obtain ⟨x, here, due, -⟩ := picks
    obtain rfl : .due d = x := List.mem_singleton.1 (List.mem_of_getElem? here) |>.symm
    have due : d ≤ h'.now := of_decide_eq_true due
    have bounded := Waits.now_le still (List.mem_singleton.2 rfl) w
    exact ⟨p.waits w holds, rfl, now_of_late (w.now_ge still) due bounded, w.free⟩
  | after ms result =>
    -- The clock is read before the wait, which ends with the answer when both are due.
    refine ⟨holds, trivial, fun g o => ⟨fun _ => ?_, fun h' w => ?_⟩⟩
    · exact ⟨d, List.mem_cons_of_mem _ List.mem_cons_self⟩
    have keeps := p.waits w (p.after o holds)
    refine ⟨keeps, fun i picks => ?_⟩
    have began : g.now = h.now := o.now_eq still
    have later : h.now ≤ h'.now := began ▸ w.now_ge still
    have first := Waits.now_le still (d := h.now + ms) List.mem_cons_self w
    have second := Waits.now_le still (d := d) (List.mem_cons_of_mem _ List.mem_cons_self) w
    rw [began] at first second
    have far : Waits E [] h h' := (Others.waits o).trans w.free
    rcases picks_or_due picks with ⟨rfl, due⟩ | ⟨rfl, early, due⟩
    · obtain ⟨now, inTime⟩ := now_of_answered (of_decide_eq_true due) first second
      refine ⟨keeps, (if_pos inTime).symm, ?_, far⟩
      exact now.trans (congrArg (h.now + ·) (Nat.min_eq_left inTime).symm)
    · have now := now_of_late later due second
      have late : ¬ ms ≤ d - h.now := fun inTime =>
        of_decide_eq_false early (now ▸ Nat.add_le_add_left inTime h.now)
      refine ⟨keeps, (if_neg late).symm, ?_, far⟩
      exact now.trans (congrArg (h.now + ·) (Nat.min_eq_right (Nat.le_of_not_le late)).symm)

/-- A dial is counted, and then only the others and the clock move. -/
theorem returns_dial (counted : ∀ {a : Host}, K a → K { a with dials := a.dials + 1 }) (endpoint : String)
    (timeout : Duration) (holds : K h) :
    (dial endpoint timeout).Returns E K h fun x h' =>
      x = (h.network.dial h.dials endpoint).inTime timeout.ceilMillis ∧
        h'.now = h.now + (h.network.dial h.dials endpoint).wait timeout.ceilMillis ∧
          Waits E [] { h with dials := h.dials + 1 } h' := by
  refine ⟨holds, trivial, fun g o => ?_⟩
  have keeps := p.after o (counted holds)
  refine ⟨keeps, trivial, fun g' o' => ?_⟩
  have left : g.now + timeout.ceilMillis - g'.now = timeout.ceilMillis := by
    rw [o'.now_eq still]
    exact Nat.add_sub_cancel_left _ _
  have began : g'.now = h.now := (o'.now_eq still).trans (o.now_eq still :)
  refine (returns_awaitAnswer p still _ (g.now + timeout.ceilMillis) (p.after o' keeps)).imp id ?_
  rintro x h' - ⟨answer, now, free⟩
  rw [left] at answer now
  rw [began] at now
  exact ⟨answer, now, (Others.waits (o.trans o')).trans free⟩

end

/-! ## The dials of a start -/

/-- A dial, with the host when it was made and the host when it was over. -/
structure Dial where
  endpoint : String
  asked : Host
  answer : Option (Except Net.Failure Unit)
  ended : Host

namespace Dial

def Connects (d : Dial) : Prop := d.answer = some (.ok ())

/-- Why it came to nothing. -/
def reason (d : Dial) : String :=
  match d.answer with
  | some (.error e) => d.endpoint ++ ": " ++ e.text
  | _ => d.endpoint ++ ": dial timed out"

def event (d : Dial) : Event :=
  match d.answer with
  | some (.error e) => .unreachable d.endpoint e.text
  | _ => .dialTimedOut d.endpoint

/-- It was made, and answered in time or given up. -/
structure Made (E : Host → Host → Prop) (timeout : Duration) (d : Dial) : Prop where
  run : Run E (dial d.endpoint timeout) d.asked (.returned d.answer) d.ended
  answer : d.answer = (d.asked.network.dial d.asked.dials d.endpoint).inTime timeout.ceilMillis
  now : d.ended.now = d.asked.now + (d.asked.network.dial d.asked.dials d.endpoint).wait timeout.ceilMillis
  free : Waits E [] { d.asked with dials := d.asked.dials + 1 } d.ended

end Dial

/-- What the others do not end is not ended by a dial. -/
theorem Dial.Made.keeps {K : Host → Prop} {timeout : Duration} {d : Dial} (made : d.Made E timeout)
    (p : Persists E K) (counted : ∀ {a : Host}, K a → K { a with dials := a.dials + 1 })
    (dialing : Others E g d.asked) (holds : K g) : K d.ended :=
  p.waits made.free (counted (p.after dialing holds))

/-- The dials of a start of `o`, from when this was left to dial and this was the reason so far. -/
inductive Dials (E : Host → Host → Prop) (t : TaskId) (r : ResourceId) (o : Coordination.ClientOptions) :
    String → List String → Host → List Dial → Except ResourceError Unit → Host → Prop where
  | exhausted (reason : String) (h : Host) :
      Dials E t r o reason [] h [] (.error (.connect o.endpoints reason)) h
  | failed {reason rest h d g dials result h'} : Others E (h.emit (.dialing d.endpoint o.dialTimeout)) d.asked →
      d.Made E o.dialTimeout → ¬ d.Connects → Others E (d.ended.emit d.event) g →
      Dials E t r o d.reason rest g dials result h' →
      Dials E t r o reason (d.endpoint :: rest) h (d :: dials) result h'
  | connected {reason rest h d g₁ g₂ h'} : Others E (h.emit (.dialing d.endpoint o.dialTimeout)) d.asked →
      d.Made E o.dialTimeout → d.Connects → Others E (d.ended.emit (.connected o.name d.endpoint)) g₁ →
      Others E (g₁.changeClient r fun c => { c with connection := some d.endpoint }) g₂ →
      Others E (g₂.reportReady t) h' →
      Dials E t r o reason (d.endpoint :: rest) h [d] (.ok ()) h'

section
variable {o : Coordination.ClientOptions} {reason : String} {rest : List String} {d : Dial}

/-- Nothing was reported since, or the dials are through. -/
def Unreported (E : Host → Host → Prop) (t : TaskId) (r : ResourceId) (o : Coordination.ClientOptions)
    (reason : String) (endpoints : List String) (h g : Host) : Prop :=
  g.report? t = h.report? t ∨ ∃ dials, Dials E t r o reason endpoints h dials (.ok ()) g

/-- A start goes on after a dial that came to nothing. -/
theorem returns_failed (dialing : Others E (h.emit (.dialing d.endpoint o.dialTimeout)) d.asked)
    (made : d.Made E o.dialTimeout) (failed : ¬ d.Connects) (early : d.ended.report? t = h.report? t)
    (silent : ∀ {a b}, E a b → b.report? t = a.report? t)
    (ih : ∀ g, (connect t r o d.reason rest).Returns E (Unreported E t r o d.reason rest g) g
      fun result h' => ∃ dials, Dials E t r o d.reason rest g dials result h') :
    (do
      emit d.event
      connect t r o d.reason rest : Routine _).Returns E (Unreported E t r o reason (d.endpoint :: rest) h) d.ended
      fun result h' => ∃ dials, Dials E t r o reason (d.endpoint :: rest) h dials result h' := by
  refine ⟨.inl early, trivial, fun g o₂ => ?_⟩
  have same : g.report? t = h.report? t :=
    o₂.preserve (K := fun b => b.report? t = h.report? t) (fun e before => (silent e).trans before) early
  refine (ih g).imp (fun moment => moment.imp (fun before => before.trans same) ?_) ?_
  · rintro ⟨dials, more⟩
    exact ⟨_, .failed dialing made failed o₂ more⟩
  · rintro result h' - ⟨dials, more⟩
    exact ⟨_, .failed dialing made failed o₂ more⟩

/-- A start returns and makes its dials in order; it does not report before they are through. -/
theorem returns_connect (still : ∀ {a b}, E a b → b.now = a.now)
    (silent : ∀ {a b}, E a b → b.report? t = a.report? t) (endpoints : List String) (reason : String) (h : Host) :
    (connect t r o reason endpoints).Returns E (Unreported E t r o reason endpoints h) h
      fun result h' => ∃ dials, Dials E t r o reason endpoints h dials result h' := by
  induction endpoints generalizing reason h with
  | nil => exact ⟨.inl rfl, [], .exhausted reason h⟩
  | cons endpoint rest ih =>
    have unreported : Persists E fun g => g.report? t = h.report? t :=
      ⟨fun e before => (silent e).trans before, id⟩
    refine ⟨.inl rfl, trivial, fun asked o₁ => ?_⟩
    have early : asked.report? t = h.report? t := unreported.after o₁ rfl
    show Meets _ _ (dial endpoint o.dialTimeout >>= _) asked
    have dialed := (returns_dial unreported still id endpoint o.dialTimeout early).and_run
    refine Meets.andThen (dialed.imp (fun before => .inl before) fun _ _ _ => id) ?_
    rintro answer ended - ⟨⟨answered, now, free⟩, run⟩
    have made : Dial.Made E o.dialTimeout ⟨endpoint, asked, answer, ended⟩ := ⟨run, answered, now, free⟩
    have early : ended.report? t = h.report? t := unreported.waits free early
    match answer with
    | none => exact returns_failed o₁ made nofun early silent (ih _)
    | some (.error e) => exact returns_failed o₁ made nofun early silent (ih _)
    | some (.ok ()) =>
      refine ⟨.inl early, trivial, fun g₁ o₂ => ?_⟩
      have early : g₁.report? t = h.report? t := unreported.after o₂ early
      refine ⟨.inl early, trivial, fun g₂ o₃ => ?_⟩
      have early : g₂.report? t = h.report? t := unreported.after o₃ early
      refine ⟨.inl early, trivial, fun g₃ o₄ => ?_⟩
      have through : Dials E t r o reason (endpoint :: rest) h _ (.ok ()) g₃ :=
        .connected o₁ made rfl o₂ o₃ o₄
      exact ⟨.inr ⟨_, through⟩, _, through⟩

end

/-! ## What the dials come to -/

/-- Why the last dial came to nothing. -/
def lastReason (reason : String) (dials : List Dial) : String := (dials.getLast?.map (·.reason)).getD reason

theorem lastReason_cons (reason : String) (d : Dial) (dials : List Dial) :
    lastReason reason (d :: dials) = lastReason d.reason dials := by
  rw [lastReason, lastReason, List.getLast?_cons]
  cases dials.getLast? <;> rfl

/-- How a start of the client `c` in `h` that had these endpoints to dial ends in `h'`, with its dials and its
result. -/
inductive Ends (t : TaskId) (r : ResourceId) (c : Client) (reason : String) (endpoints : List String) (h h' : Host) :
    List Dial → Except ResourceError Unit → Prop where
  /-- The last dial connects. The connection is held, and it is reported. -/
  | connected {before : List Dial} {d : Dial} : (∀ x ∈ before, ¬ x.Connects) → d.Connects →
      (before ++ [d]).map (·.endpoint) <+: endpoints →
      h'.client? r = some { c with connection := some d.endpoint } →
      (h.report? t = some none → h'.report? t = some (some (.ok ()))) →
      Ends t r c reason endpoints h h' (before ++ [d]) (.ok ())
  /-- All fail. The last one tells why. -/
  | failed {ds : List Dial} : (∀ x ∈ ds, ¬ x.Connects) → ds.map (·.endpoint) = endpoints →
      h'.client? r = some c → h'.report? t = h.report? t →
      Ends t r c reason endpoints h h' ds (.error (.connect c.options.endpoints (lastReason reason ds)))

section
variable {c : Client} {reason : String} {endpoints : List String} {dials : List Dial}
  {result : Except ResourceError Unit}

theorem Dials.ends (apart : Apart E r) (silent : ∀ {a b}, E a b → b.report? t = a.report? t)
    (client : h.client? r = some c) (all : Dials E t r c.options reason endpoints h dials result h') :
    Ends t r c reason endpoints h h' dials result := by
  induction all with
  | exhausted reason h => exact .failed (List.forall_mem_nil _) rfl client rfl
  | @failed reason rest h d g dials result h' o₁ made failed o₂ _ ih =>
    have client : d.ended.client? r = some c := made.keeps (apart.client _) id o₁ client
    have report : d.ended.report? t = h.report? t := made.keeps (persists_report silent _) id o₁ rfl
    have same : g.report? t = h.report? t := (persists_report silent _).after o₂ report
    cases ih ((apart.client (some c)).after o₂ client) with
    | @connected before last others connects order holds told =>
      show Ends t r c reason (d.endpoint :: rest) h h' ((d :: before) ++ [last]) (.ok ())
      refine .connected (List.forall_mem_cons.2 ⟨failed, others⟩) connects ?_ holds (same ▸ told)
      exact List.cons_prefix_cons.2 ⟨rfl, order⟩
    | failed others order holds told =>
      rw [← lastReason_cons reason]
      exact .failed (List.forall_mem_cons.2 ⟨failed, others⟩) (congrArg _ order) holds (told.trans same)
  | @connected reason rest h d g₁ g₂ h' o₁ made connects o₂ o₃ o₄ =>
    have client : d.ended.client? r = some c := made.keeps (apart.client _) id o₁ client
    have client : g₁.client? r = some c := (apart.client (some c)).after o₂ client
    have report : d.ended.report? t = h.report? t := made.keeps (persists_report silent _) id o₁ rfl
    have report : g₁.report? t = h.report? t := (persists_report silent _).after o₂ report
    have report : g₂.report? t = h.report? t := (persists_report silent _).after o₃ report
    show Ends t r c reason (d.endpoint :: rest) h h' ([] ++ [d]) (.ok ())
    refine .connected (List.forall_mem_nil _) connects ⟨rest, rfl⟩ ?_ fun none => ?_
    · have held := Host.client?_changeClient (fun c => { c with connection := some d.endpoint }) client
      have held : g₂.client? r = some { c with connection := some d.endpoint } := (apart.client _).after o₃ held
      exact (apart.client _).after o₄ held
    · exact (persists_report silent _).after o₄ (Host.report?_reportReady (report.trans none))

variable {o : Coordination.ClientOptions}

theorem Dials.made (all : Dials E t r o reason endpoints h dials result h') :
    ∀ d ∈ dials, d.Made E o.dialTimeout := by
  induction all with
  | exhausted reason h => exact List.forall_mem_nil _
  | failed _ made _ _ _ ih => exact List.forall_mem_cons.2 ⟨made, ih⟩
  | connected _ made _ _ _ _ => exact List.forall_mem_singleton.2 made

/-- A start loses no time between its dials. -/
theorem Dials.inTurn (apart : Apart E r) (all : Dials E t r o reason endpoints h dials result h') :
    (∀ d ∈ dials.head?, d.asked.now = h.now) ∧ dials.IsChain fun d next => next.asked.now = d.ended.now := by
  induction all with
  | exhausted reason h => exact ⟨by simp, .nil⟩
  | failed o₁ _ _ o₂ _ ih =>
    obtain ⟨first, chain⟩ := ih
    refine ⟨?_, List.isChain_cons.2 ⟨fun next head => ?_, chain⟩⟩
    · rintro _ ⟨⟩
      exact (o₁.now_eq apart.now :)
    · exact (first next head).trans (o₂.now_eq apart.now :)
  | connected o₁ _ _ _ _ _ =>
    refine ⟨?_, .singleton _⟩
    rintro _ ⟨⟩
    exact (o₁.now_eq apart.now :)

/-- Nothing else is dialed. -/
theorem Dials.counted (quiet : ∀ {a b}, E a b → b.dials = a.dials)
    (all : Dials E t r o reason endpoints h dials result h') : h'.dials = h.dials + dials.length := by
  have count (n : Nat) : Persists E fun g => g.dials = n := ⟨fun e before => (quiet e).trans before, id⟩
  have one {g : Host} {d : Dial} (dialing : Others E g d.asked) (made : d.Made E o.dialTimeout) :
      d.ended.dials = g.dials + 1 := by
    have asked : d.asked.dials = g.dials := (count _).after dialing rfl
    exact (count _).waits made.free (congrArg (· + 1) asked)
  induction all with
  | exhausted reason h => rfl
  | failed o₁ made _ o₂ _ ih =>
    have ended := one o₁ made
    have began := (count _).after o₂ ended
    rw [ih, began, List.length_cons, Nat.add_assoc, Nat.add_comm 1]
    rfl
  | @connected reason rest h d g₁ g₂ h' o₁ made _ o₂ o₃ o₄ =>
    have ended := one o₁ made
    have ended : g₁.dials = h.dials + 1 := (count _).after o₂ ended
    have held : g₂.dials = h.dials + 1 := (count _).after o₃ ended
    exact (count _).after o₄ held

theorem Dials.reached (all : Dials E t r o reason endpoints h dials result h') : ∀ d ∈ dials, ∃ more,
    Run E (connect t r o reason endpoints) h (.going (dial d.endpoint o.dialTimeout >>= more)) d.asked := by
  induction all with
  | exhausted reason h => exact List.forall_mem_nil _
  | @failed reason rest h d g dials result h' o₁ made failed o₂ _ ih =>
    refine List.forall_mem_cons.2 ⟨⟨_, .step o₁ (.going _ _)⟩, fun next mem => ?_⟩
    obtain ⟨more, run⟩ := ih next mem
    refine ⟨more, .step o₁ ?_⟩
    show Run E (dial d.endpoint o.dialTimeout >>= _) d.asked _ _
    refine made.run.andThen ?_
    obtain ⟨endpoint, asked, answer, ended⟩ := d
    match answer with
    | none => exact .step o₂ run
    | some (.error e) => exact .step o₂ run
    | some (.ok ()) => exact absurd rfl failed
  | connected o₁ _ _ _ _ _ => exact List.forall_mem_singleton.2 ⟨_, .step o₁ (.going _ _)⟩

end

/-! ## Starts and closes -/

/-- How far a start of `c` that was called in `h` came with these dials. -/
structure Came (E : Host → Host → Prop) (t : TaskId) (r : ResourceId) (c : Client) (h : Host) (dials : List Dial)
    (result : Except ResourceError Unit) (h' : Host) : Prop where
  ends : Ends t r c "no endpoints configured" c.options.endpoints h h' dials result
  made : ∀ d ∈ dials, d.Made E c.options.dialTimeout
  /-- Each dial is one that the start came to. -/
  reached : ∀ d ∈ dials, ∃ more,
    Run E (runStart t r) h (.going (dial d.endpoint c.options.dialTimeout >>= more)) d.asked
  inTurn : (∀ d ∈ dials.head?, d.asked.now = h.now) ∧ dials.IsChain fun d next => next.asked.now = d.ended.now
  counted : (∀ {a b}, E a b → b.dials = a.dials) → h'.dials = h.dials + dials.length

section
variable {c : Client} {dials : List Dial} {result : Except ResourceError Unit}

theorem Ends.since {reason : String} {endpoints : List String} (same : g.report? t = h.report? t)
    (ends : Ends t r c reason endpoints g h' dials result) : Ends t r c reason endpoints h h' dials result := by
  cases ends with
  | connected others connects order holds told => exact .connected others connects order holds (same ▸ told)
  | failed others order holds told => exact .failed others order holds (told.trans same)

/-- A start begins with a look at the client, and others may move before it goes on. -/
theorem run_runStart {out : Progress (Except ResourceError Unit)} (client : h.client? r = some c) (o : Others E h g)
    (run : Run E (connect t r c.options "no endpoints configured" c.options.endpoints) g out h') :
    Run E (runStart t r) h out h' := by
  obtain ⟨name, here⟩ := Host.resource?_of_client? client
  refine .step o ?_
  show Run E (Routine.bind (.done (h.resource? r)) _) g out h'
  rw [here]
  exact run

theorem Dials.came (apart : Apart E r) (silent : ∀ {a b}, E a b → b.report? t = a.report? t)
    (client : h.client? r = some c) (o : Others E h g)
    (all : Dials E t r c.options "no endpoints configured" c.options.endpoints g dials result h') :
    Came E t r c h dials result h' := by
  have began : g.report? t = h.report? t := (persists_report silent _).after o rfl
  have held : g.client? r = some c := (apart.client _).after o client
  have now : g.now = h.now := o.now_eq apart.now
  refine ⟨(all.ends apart silent held).since began, all.made, fun d mem => ?_, ?_, fun quiet => ?_⟩
  · obtain ⟨more, run⟩ := all.reached d mem
    exact ⟨more, run_runStart client o run⟩
  · exact now ▸ all.inTurn apart
  · have count : g.dials = h.dials :=
      o.preserve (K := fun b => b.dials = h.dials) (fun e same => (quiet e).trans same) rfl
    exact count ▸ all.counted quiet

/-- A start returns. What was reported stays so until the dials are through and the connection is held. -/
theorem returns_runStart (apart : Apart E r) (silent : ∀ {a b}, E a b → b.report? t = a.report? t)
    (client : h.client? r = some c) :
    (runStart t r).Returns E (fun g => g.report? t = h.report? t ∨ ∃ dials, Came E t r c h dials (.ok ()) g) h
      fun result h' => ∃ dials, Came E t r c h dials result h' := by
  obtain ⟨name, here⟩ := Host.resource?_of_client? client
  refine ⟨.inl rfl, trivial, fun g o => ?_⟩
  have began : g.report? t = h.report? t := (persists_report silent _).after o rfl
  show Meets _ _ (Routine.bind (.done (h.resource? r)) _) g
  rw [here]
  refine (returns_connect apart.now silent c.options.endpoints _ g).imp (fun moment => ?_) ?_
  · refine moment.imp (fun before => before.trans began) ?_
    rintro ⟨dials, all⟩
    exact ⟨dials, all.came apart silent client o⟩
  · rintro result h' - ⟨dials, all⟩
    exact ⟨dials, all.came apart silent client o⟩

/-- A close returns and has let go of the connection, whatever it returns. -/
theorem returns_runClose (apart : Apart E r) (client : h.client? r = some c) (d : Instant) :
    (runClose r d).Returns E (fun _ => True) h fun result h' =>
      h'.client? r = some { c with connection := none } ∧
        (c.connection = none → result = .ok () ∧ Others E h h') := by
  obtain ⟨name, here⟩ := Host.resource?_of_client? client
  refine ⟨trivial, trivial, fun g o => ?_⟩
  have held : g.client? r = some c := (apart.client _).after o client
  show Meets _ _ (Routine.bind (.done (h.resource? r)) _) g
  rw [here]
  show Meets _ _ (disconnect r c d) g
  rw [disconnect]
  cases connection : c.connection with
  | none =>
    have idle : c = { c with connection := none } := by rw [← connection]
    exact ⟨trivial, idle ▸ held, fun _ => ⟨rfl, o⟩⟩
  | some endpoint =>
    have gone := apart.client (some { c with connection := none })
    refine ⟨trivial, trivial, fun g₁ o₁ => ?_⟩
    have free : g₁.client? r = some { c with connection := none } :=
      gone.after o₁ (Host.client?_changeClient (fun c => { c with connection := none }) held)
    refine ⟨trivial, trivial, fun g₂ o₂ => ?_⟩
    have free : g₂.client? r = some { c with connection := none } := gone.after o₂ free
    show Meets _ _ (Routine.within d (awaitAnswer (g₁.network.hangUp endpoint)) >>= _) g₂
    refine Meets.andThen ((returns_awaitAnswer gone apart.now _ d free).imp (fun _ => trivial)
      fun _ _ free _ => free) ?_
    rintro answer ended - free
    match answer with
    | none => exact ⟨trivial, free, nofun⟩
    | some (.error e) => exact ⟨trivial, free, nofun⟩
    | some (.ok ()) => exact ⟨trivial, trivial, fun g₃ o₃ => ⟨trivial, gone.after o₃ free, nofun⟩⟩

end

/-! ## Calls one after another -/

inductive Call where
  | start (t : TaskId)
  | close (d : Instant)

/-- The calls of a client and what they returned, latest first. Between them others move and time passes. -/
inductive Called (E : Host → Host → Prop) (r : ResourceId) (starts : TaskId → Prop) (h : Host) :
    List (Call × Except ResourceError Unit) → Host → Prop where
  | nothing : Called E r starts h [] h
  | waited {made g g'} : Called E r starts h made g → Waits E [] g g' → Called E r starts h made g'
  | started {made g t result g'} : Called E r starts h made g → starts t →
      Run E (runStart t r) g (.returned result) g' → Called E r starts h ((.start t, result) :: made) g'
  | closed {made g d result g'} : Called E r starts h made g →
      Run E (runClose r d) g (.returned result) g' → Called E r starts h ((.close d, result) :: made) g'

/-- The latest successful start came after the latest close. -/
def StartedLast (made : List (Call × Except ResourceError Unit)) : Prop :=
  ∃ after t before, made = after ++ (.start t, .ok ()) :: before ∧ ∀ x ∈ after, ∀ d, x.1 ≠ .close d

theorem startedLast_cons {x : Call × Except ResourceError Unit} {made : List (Call × Except ResourceError Unit)} :
    StartedLast (x :: made) ↔
      (∃ t, x = (.start t, .ok ())) ∨ (∀ d, x.1 ≠ .close d) ∧ StartedLast made := by
  constructor
  · rintro ⟨after, t, before, split, open_⟩
    cases after with
    | nil => exact .inl ⟨t, (List.cons.inj split).1⟩
    | cons y after =>
      obtain ⟨rfl, rfl⟩ := List.cons.inj split
      obtain ⟨this, others⟩ := List.forall_mem_cons.1 open_
      exact .inr ⟨this, after, t, before, rfl, others⟩
  · rintro (⟨t, rfl⟩ | ⟨this, after, t, before, rfl, others⟩)
    · exact ⟨[], t, made, rfl, List.forall_mem_nil _⟩
    · exact ⟨x :: after, t, before, rfl, List.forall_mem_cons.2 ⟨this, others⟩⟩

variable {starts : TaskId → Prop} {made : List (Call × Except ResourceError Unit)}
  {o : Coordination.ClientOptions} {given : List String}

/-- A client is connected when its latest successful start came after its latest close. -/
theorem Called.connected (apart : Apart E r) (silent : ∀ {t a b}, starts t → E a b → b.report? t = a.report? t)
    (new : h.client? r = some { options := o }) (called : Called E r starts h made g) :
    ∃ connection, g.client? r = some ⟨o, connection⟩ ∧ (connection.isSome ↔ StartedLast made) := by
  induction called with
  | nothing =>
    refine ⟨none, new, nofun, ?_⟩
    rintro ⟨after, t, before, split, -⟩
    simp at split
  | waited _ w ih =>
    obtain ⟨connection, client, held⟩ := ih
    exact ⟨connection, (apart.client _).waits w client, held⟩
  | @started made g t result g' _ mine run ih =>
    obtain ⟨connection, client, held⟩ := ih
    obtain ⟨-, came, -⟩ := (returns_runStart apart (silent mine) client).of_run run
    obtain ⟨dials, came⟩ := came result rfl
    cases came.ends with
    | connected _ _ _ holds _ => exact ⟨_, holds, fun _ => startedLast_cons.2 (.inl ⟨t, rfl⟩), fun _ => rfl⟩
    | failed _ _ holds _ =>
      refine ⟨connection, holds, held.trans ⟨fun last => ?_, fun last => ?_⟩⟩
      · exact startedLast_cons.2 (.inr ⟨nofun, last⟩)
      · obtain ⟨t, ⟨⟩⟩ | ⟨-, last⟩ := startedLast_cons.1 last
        exact last
  | @closed made g d result g' _ run ih =>
    obtain ⟨connection, client, held⟩ := ih
    obtain ⟨-, closed, -⟩ := (returns_runClose apart client d).of_run run
    refine ⟨none, (closed result rfl).1, nofun, fun last => ?_⟩
    obtain ⟨t, ⟨⟩⟩ | ⟨this, -⟩ := startedLast_cons.1 last
    exact absurd rfl (this d)

/-- Whatever calls were made of a client, it is connected when its latest successful start came after its latest
close. A start dials the endpoints in the order in which they were given, none for longer than the timeout, up to the
first that connects, and holds that connection before it reports. A close lets go of the connection. -/
theorem client_dials_in_order_and_lets_go (apart : Apart E r)
    (silent : ∀ {t a b}, starts t → E a b → b.report? t = a.report? t) (built : o.Built given)
    (new : h.client? r = some { options := o }) (called : Called E r starts h made g) :
    o.endpoints = given ∧
    (∀ d : Dial, d.Made E o.dialTimeout →
      d.ended.now * 1000000 ≤ d.asked.now * 1000000 + o.dialTimeout.nanos) ∧
    ∃ connection, g.client? r = some ⟨o, connection⟩ ∧ (connection.isSome ↔ StartedLast made) ∧
      (∀ t, starts t → (runStart t r).Returns E
        (fun k => k.report? t = g.report? t ∨ ∃ dials, Came E t r ⟨o, connection⟩ g dials (.ok ()) k) g
        fun result k => ∃ dials, Came E t r ⟨o, connection⟩ g dials result k) ∧
      ∀ d, (runClose r d).Returns E (fun _ => True) g fun result k =>
        k.client? r = some ⟨o, none⟩ ∧ (connection = none → result = .ok () ∧ Others E g k) := by
  obtain ⟨connection, client, held⟩ := called.connected apart silent new
  refine ⟨built.endpoints, fun d made => ?_, connection, client, held, fun t mine => ?_, fun d => ?_⟩
  · have short : d.ended.now ≤ d.asked.now + o.dialTimeout.ceilMillis :=
      made.now ▸ Nat.add_le_add_left (Net.Answer.wait_le _ _) _
    calc d.ended.now * 1000000 ≤ (d.asked.now + o.dialTimeout.ceilMillis) * 1000000 := Nat.mul_le_mul_right _ short
      _ = d.asked.now * 1000000 + o.dialTimeout.nanos := by rw [Nat.add_mul, built.ceilMillis]
  · exact returns_runStart apart (silent mine) client
  · exact returns_runClose apart client d

/-- The first endpoint refuses, the second connects, and the close is not answered in time. -/
theorem second_endpoint_connects_and_is_let_go : ∃ (h g : Host) (o : Coordination.ClientOptions)
    (made : List (Call × Except ResourceError Unit)), o.Built ["first:1", "second:2"] ∧
      h.client? 0 = some { options := o } ∧ Called (fun _ _ => False) 0 (fun _ => True) h made g ∧
        made.map (·.2) = [.error .closeTimedOut, .ok ()] ∧
          ∃ connection, g.client? 0 = some ⟨o, connection⟩ ∧ (connection.isSome ↔ StartedLast made) := by
  let o := Coordination.ClientOptions.addEndpoints {} ["first:1", "second:2"]
  let h : Host :=
    { coordinator := { config := {} }
      network :=
        { Net.Network.isolated with
          dial := fun n _ => if n = 0 then .after 3 (.error ⟨"refused", false⟩) else .after 2 (.ok ())
          hangUp := fun _ => .never }
      resources := [.client o]
      tasks := [⟨.start 0 .direct, 0, {}, none, none⟩] }
  have built : o.Built ["first:1", "second:2"] := .addEndpoints _ .new
  have apart : Apart (fun _ _ => False) 0 := ⟨False.elim, False.elim⟩
  have go {k : Host} {f : Host → Host} {next : Host → Routine (Except ResourceError Unit)}
      {out : Progress (Except ResourceError Unit)} {Q : Host → Prop}
      (more : ∃ g, Run (fun _ _ => False) (next k) (f k) out g ∧ Q g) :
      ∃ g, Run (fun _ _ => False) (.step f next) k out g ∧ Q g := by
    obtain ⟨g, run, holds⟩ := more
    exact ⟨g, .step .refl run, holds⟩
  have pause {k : Host} {n : Instant} {signals : List Signal} {next : Nat → Routine (Except ResourceError Unit)}
      {out : Progress (Except ResourceError Unit)} {Q : Host → Prop} (later : k.now ≤ n)
      (bounded : ∀ d, .due d ∈ signals → n ≤ d)
      (more : ∃ g, Run (fun _ _ => False) (next 0) { k with now := n } out g ∧ Q g) :
      ∃ g, Run (fun _ _ => False) (.wait (.due n :: signals) next) k out g ∧ Q g := by
    obtain ⟨g, run, holds⟩ := more
    have first (d : Instant) (mem : .due d ∈ .due n :: signals) : n ≤ d := by
      obtain ⟨⟨⟩⟩ | mem := List.mem_cons.1 mem
      · exact Nat.le_refl n
      · exact bounded d mem
    refine ⟨g, .wait (.single (.inr ⟨n, later, fun d mem _ => first d mem, rfl⟩)) ?_ run, holds⟩
    exact ⟨.due n, rfl, decide_eq_true (Nat.le_refl n), fun _ _ j before => absurd before (Nat.not_lt_zero j)⟩
  have limit {n m : Instant} (before : n ≤ m) (d : Instant) (mem : .due d ∈ [Signal.due m]) : n ≤ d := by
    obtain ⟨⟩ := List.mem_singleton.1 mem
    exact before
  have calls : ∃ k, Run (fun _ _ => False) (runStart 0 0) h (.returned (.ok ())) k ∧
      ∃ g, Run (fun _ _ => False) (runClose 0 8) k (.returned (.error .closeTimedOut)) g ∧ True := by
    -- Each dial looks at the clock twice before it waits.
    refine go (go (go (go (go (pause (by decide) (limit (by decide)) ?_)))))
    refine go (go (go (go (go (pause (by decide) (limit (by decide)) ?_)))))
    refine go (go (go ⟨_, .done _ _, ?_⟩))
    exact go (go (go (pause (by decide) (fun _ mem => nomatch mem) ⟨_, .done _ _, trivial⟩)))
  obtain ⟨k, started, g, closed, -⟩ := calls
  have called : Called (fun _ _ => False) 0 (fun _ => True) h
      [(.close 8, .error .closeTimedOut), (.start 0, .ok ())] g :=
    .closed (.started .nothing trivial started) closed
  obtain ⟨-, -, connection, client, held, -⟩ :=
    client_dials_in_order_and_lets_go apart (fun _ => False.elim) built rfl called
  exact ⟨h, g, o, _, built, rfl, called, rfl, connection, client, held⟩

end Dialing

end Lifecycle

end ServiceHost
