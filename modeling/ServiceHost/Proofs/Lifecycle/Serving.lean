import ServiceHost.Proofs.Lifecycle.Moments
import ServiceHost.Proofs.Lifecycle.Parts
import ServiceHost.Proofs.Lifecycle.Sharing

/-! One server, started once and closed any number of times. The calls go on side by side, requests come and go,
and time passes. A close leaves its request with the server as it looks at it, so that the request is seen wherever
the start is by then. -/

namespace ServiceHost.Lifecycle

open Relation Routine

/-! ## One step of a call -/

namespace Routine

variable {α : Type} {h h' : Host}

theorem Goes.of_step {f : Host → Host} {next : Host → Routine α} {r : Routine α}
    (g : (Routine.step f next).Goes h r h') : r = next h ∧ h' = f h := by
  cases g
  exact ⟨rfl, rfl⟩

theorem Goes.of_wait {s : List Signal} {next : Nat → Routine α} {r : Routine α}
    (g : (Routine.wait s next).Goes h r h') :
    ∃ i, Picks s h i ∧ r = ((next i).resume h).1 ∧ h' = ((next i).resume h).2 := by
  cases g with
  | wait picks => exact ⟨_, picks, rfl, rfl⟩

end Routine

/-! ## Where a call stands -/

/-- What a start does, or a close, each from one point on. -/
abbrev Tail := Routine (Except ResourceError Unit)

namespace Server

variable (t : TaskId) (r : ResourceId) (v : Server)

def saysStopped : Tail := do
  emit (.serverStopped v.options.name)
  return .ok ()

def awaitsIdle : Tail := do
  waitFor (.idle r)
  update fun h => h.changeServer r fun s => { s with stopped := true }
  v.saysStopped

def reports : Tail := do
  update (·.reportReady t)
  v.awaitsIdle r

def saysListening : Tail := do
  emit (.listening v.options.name)
  v.reports t r

def holds (ip : Net.Ip) : Tail := do
  update fun h => h.changeServer r fun s =>
    { s with localIp := s.localIp.orElse fun _ => some ip, serving := true }
  v.saysListening t r

def binds : Tail := do
  match ← read (·.network.bind v.options.address) with
  | .error e => return .error (.bind v.options.address e.text)
  | .ok ip => v.holds t r ip

theorem serveRequests_eq :
    serveRequests t r v = if v.closeRequested then return .error .closed else v.binds t r := rfl

def awaitsStop (d : Instant) : Tail := do
  match ← within d (waitFor (.serverStopped r)) with
  | some () => return .ok ()
  | none =>
    emit (.connectionsLeft v.options.name)
    return .error .closeTimedOut

def saysDraining (d : Instant) : Tail := do
  emit (.connectionsDraining v.options.name)
  v.awaitsStop r d

/-- Nothing tells of a listener: none is bound, or the start has just bound it and did not get to say so. -/
structure Unbound (v : Server) : Prop where
  serving : v.serving = false
  stopped : v.stopped = false
  localIp : v.localIp = none
  inFlight : v.inFlight = 0

structure Bound (v : Server) : Prop where
  serving : v.serving = true
  stopped : v.stopped = false
  localIp : v.localIp.isSome

/-- It was bound, and stopped after a close was requested and no request was left. -/
structure Over (v : Server) : Prop where
  serving : v.serving = true
  stopped : v.stopped = true
  localIp : v.localIp.isSome
  asked : v.closeRequested = true
  inFlight : v.inFlight = 0

/-- Where a start stands that found the server `w`: how the server is now, what was reported, what is left. -/
inductive Stage (t : TaskId) (r : ResourceId) (w v : Server) :
    Option (Except ResourceError Unit) → Tail → Prop where
  | refused : w.closeRequested = true → v.Unbound → Stage t r w v none (.done (.error .closed))
  | binds : w.closeRequested = false → v.Unbound → Stage t r w v none (w.binds t r)
  | failed (text : String) : w.closeRequested = false → v.Unbound →
      Stage t r w v none (.done (.error (.bind w.options.address text)))
  | holds (ip : Net.Ip) : w.closeRequested = false → v.Unbound → Stage t r w v none (w.holds t r ip)
  | saysListening : w.closeRequested = false → v.Bound → Stage t r w v none (w.saysListening t r)
  | reports : w.closeRequested = false → v.Bound → Stage t r w v none (w.reports t r)
  | awaitsIdle : w.closeRequested = false → v.Bound → Stage t r w v (some (.ok ())) (w.awaitsIdle r)
  | saysStopped : w.closeRequested = false → v.Over → Stage t r w v (some (.ok ())) w.saysStopped
  | returned : w.closeRequested = false → v.Over → Stage t r w v (some (.ok ())) (.done (.ok ()))

/-- Where a close stands that found the server `w` at `since` and last went on when the host was `last`. -/
inductive Leave (r : ResourceId) (d : Instant) (w : Server) (since : Instant) (last : Host) (now : Instant) :
    Tail → Prop where
  | unbound : w.serving = false → Leave r d w since last now (.done (.ok ()))
  | saysDraining : w.serving = true → now ≤ max since d → Leave r d w since last now (w.saysDraining r d)
  | awaitsStop : w.serving = true → now ≤ max since d → Leave r d w since last now (w.awaitsStop r d)
  | stopped {u} : w.serving = true → last.server? r = some u → u.stopped = true → last.now ≤ max since d →
      Leave r d w since last now (.done (.ok ()))
  | late {u} : w.serving = true → last.server? r = some u → u.stopped = false → d ≤ last.now →
      Leave r d w since last now (.done (.error .closeTimedOut))

/-- What others than its start do to a server. -/
structure Drifts (v v' : Server) : Prop where
  serving : v'.serving = v.serving
  stopped : v'.stopped = v.stopped
  localIp : v'.localIp = v.localIp
  asked : v.closeRequested = true → v'.closeRequested = true
  inFlight : v.serving = false ∨ v.stopped = true → v.inFlight = 0 → v'.inFlight = 0

namespace Drifts

variable {v v' w : Server} {t : TaskId} {r : ResourceId} {reported : Option (Except ResourceError Unit)} {tail : Tail}

theorem unbound (d : Drifts v v') (u : v.Unbound) : v'.Unbound :=
  ⟨d.serving.trans u.serving, d.stopped.trans u.stopped, d.localIp.trans u.localIp,
    d.inFlight (.inl u.serving) u.inFlight⟩

theorem bound (d : Drifts v v') (b : v.Bound) : v'.Bound :=
  ⟨d.serving.trans b.serving, d.stopped.trans b.stopped, d.localIp ▸ b.localIp⟩

theorem stays_over (d : Drifts v v') (o : v.Over) : v'.Over :=
  ⟨d.serving.trans o.serving, d.stopped.trans o.stopped, d.localIp ▸ o.localIp, d.asked o.asked,
    d.inFlight (.inr o.stopped) o.inFlight⟩

theorem stage (d : Drifts v v') (s : Stage t r w v reported tail) : Stage t r w v' reported tail := by
  cases s with
  | refused asked unbound => exact .refused asked (d.unbound unbound)
  | binds free unbound => exact .binds free (d.unbound unbound)
  | failed text free unbound => exact .failed text free (d.unbound unbound)
  | holds ip free unbound => exact .holds ip free (d.unbound unbound)
  | saysListening free bound => exact .saysListening free (d.bound bound)
  | reports free bound => exact .reports free (d.bound bound)
  | awaitsIdle free bound => exact .awaitsIdle free (d.bound bound)
  | saysStopped free ended => exact .saysStopped free (d.stays_over ended)
  | returned free ended => exact .returned free (d.stays_over ended)

end Drifts

theorem idle_of_picks {h : Host} {r : ResourceId} {v : Server} {i : Nat} (picks : Picks [.idle r] h i)
    (server : h.server? r = some v) : v.closeRequested = true ∧ v.inFlight = 0 := by
  obtain ⟨x, here, holds, -⟩ := picks
  obtain rfl : .idle r = x := List.mem_singleton.1 (List.mem_of_getElem? here) |>.symm
  have server : (h.resource? r).bind (·.server?) = some v := server
  simpa [Signal.holds, server] using holds

/-- A start goes on from stage to stage. -/
theorem Stage.goes {h h' : Host} {t : TaskId} {r : ResourceId} {w v : Server}
    {reported : Option (Except ResourceError Unit)} {tail rest : Tail} (stage : Stage t r w v reported tail)
    (server : h.server? r = some v) (report : h.report? t = some reported) (goes : tail.Goes h rest h') :
    h'.now = h.now ∧ ∃ v' reported', h'.server? r = some v' ∧ h'.report? t = some reported' ∧
      Stage t r w v' reported' rest ∧ v'.closeRequested = v.closeRequested := by
  cases stage with
  | refused _ _ => cases goes
  | failed _ _ _ => cases goes
  | returned _ _ => cases goes
  | binds free unbound =>
    obtain ⟨rfl, rfl⟩ := Goes.of_step goes
    refine ⟨rfl, v, none, server, report, ?_, rfl⟩
    show Stage t r w v none (match h'.network.bind w.options.address with
      | .error e => .done (.error (.bind w.options.address e.text))
      | .ok ip => w.holds t r ip)
    cases h'.network.bind w.options.address with
    | error e => exact .failed e.text free unbound
    | ok ip => exact .holds ip free unbound
  | holds ip free unbound =>
    obtain ⟨rfl, rfl⟩ := Goes.of_step goes
    refine ⟨rfl, _, none, Host.server?_changeServer _ server, report, .saysListening free ?_, rfl⟩
    exact ⟨rfl, unbound.stopped, by simp [unbound.localIp]⟩
  | saysListening free bound =>
    obtain ⟨rfl, rfl⟩ := Goes.of_step goes
    exact ⟨rfl, v, none, server, report, .reports free bound, rfl⟩
  | reports free bound =>
    obtain ⟨rfl, rfl⟩ := Goes.of_step goes
    exact ⟨rfl, v, _, server, Host.report?_reportReady report, .awaitsIdle free bound, rfl⟩
  | awaitsIdle free bound =>
    obtain ⟨i, picks, rfl, rfl⟩ := Goes.of_wait goes
    obtain ⟨asked, none⟩ := idle_of_picks picks server
    refine ⟨rfl, { v with stopped := true }, _, Host.server?_changeServer _ server, report,
      .saysStopped free ?_, rfl⟩
    exact ⟨bound.serving, rfl, bound.localIp, asked, none⟩
  | saysStopped free ended =>
    obtain ⟨rfl, rfl⟩ := Goes.of_step goes
    exact ⟨rfl, v, _, server, report, .returned free ended, rfl⟩

/-- A close goes on, and leaves the server alone. -/
theorem Leave.goes {h h' : Host} {r : ResourceId} {d since : Instant} {w v : Server} {last : Host} {tail rest : Tail}
    (leave : Leave r d w since last h.now tail) (server : h.server? r = some v) (goes : tail.Goes h rest h') :
    (h'.now = h.now ∧ h'.resources = h.resources ∧ h'.tasks = h.tasks) ∧ Leave r d w since h h'.now rest := by
  cases leave with
  | unbound _ => cases goes
  | stopped _ _ _ _ => cases goes
  | late _ _ _ _ => cases goes
  | saysDraining serving early =>
    obtain ⟨rfl, rfl⟩ := Goes.of_step goes
    exact ⟨⟨rfl, rfl, rfl⟩, .awaitsStop serving early⟩
  | awaitsStop serving early =>
    obtain ⟨i, picks, rfl, rfl⟩ := Goes.of_wait goes
    have holds : Signal.holds h (.serverStopped r) = v.stopped := by
      have server : (h.resource? r).bind (·.server?) = some v := server
      simp [Signal.holds, server]
    rcases picks_or_due picks with ⟨rfl, stopped⟩ | ⟨rfl, running, due⟩
    · exact ⟨⟨rfl, rfl, rfl⟩, .stopped serving server (holds ▸ stopped) early⟩
    · exact ⟨⟨rfl, rfl, rfl⟩, .late serving server (holds ▸ running) due⟩

/-! ### Being over -/

section
variable {t : TaskId} {r : ResourceId} {v : Server} {reported : Option (Except ResourceError Unit)}

/-- A start is over in one of two ways. -/
theorem Stage.result {w : Server} {result : Except ResourceError Unit}
    (stage : Stage t r w v reported (.done result)) :
    (∃ e, result = .error e) ∧ v.Unbound ∧ reported = none ∨
      result = .ok () ∧ v.Over ∧ reported = some (.ok ()) := by
  generalize same : (Routine.done result : Tail) = tail at stage
  cases stage with
  | refused asked unbound => exact .inl ⟨⟨_, (Routine.done.inj same)⟩, unbound, rfl⟩
  | failed text free unbound => exact .inl ⟨⟨_, (Routine.done.inj same)⟩, unbound, rfl⟩
  | returned free ended => exact .inr ⟨(Routine.done.inj same), ended, rfl⟩
  | binds _ _ => cases same
  | holds _ _ _ => cases same
  | saysListening _ _ => cases same
  | reports _ _ => cases same
  | awaitsIdle _ _ => cases same
  | saysStopped _ _ => cases same

theorem Stage.of_error {w : Server} {e : ResourceError}
    (stage : Stage t r w v reported (.done (.error e))) : v.Unbound ∧ reported = none := by
  obtain ⟨-, failed⟩ | ⟨⟨⟩, -⟩ := stage.result
  exact failed

/-- An address is known as long as the listener was bound. -/
theorem Stage.localIp {w : Server} {tail : Tail} (stage : Stage t r w v reported tail) :
    v.localIp.isSome = v.serving := by
  have unbound (u : v.Unbound) : v.localIp.isSome = v.serving := by rw [u.localIp, u.serving]; rfl
  have bound (b : v.Bound) : v.localIp.isSome = v.serving := by rw [b.localIp, b.serving]
  have ended (o : v.Over) : v.localIp.isSome = v.serving := by rw [o.localIp, o.serving]
  cases stage with
  | refused _ u => exact unbound u
  | binds _ u => exact unbound u
  | failed _ _ u => exact unbound u
  | holds _ _ u => exact unbound u
  | saysListening _ b => exact bound b
  | reports _ b => exact bound b
  | awaitsIdle _ b => exact bound b
  | saysStopped _ o => exact ended o
  | returned _ o => exact ended o

theorem Leave.result {d since now : Instant} {w : Server} {last : Host} {result : Except ResourceError Unit}
    (leave : Leave r d w since last now (.done result)) :
    result = .ok () ∧ w.serving = false ∨ w.serving = true ∧ ∃ u, last.server? r = some u ∧
      (result = .ok () ∧ u.stopped = true ∧ last.now ≤ max since d ∨
        result = .error .closeTimedOut ∧ u.stopped = false ∧ d ≤ last.now) := by
  generalize same : (Routine.done result : Tail) = tail at leave
  cases leave with
  | unbound down => exact .inl ⟨Routine.done.inj same, down⟩
  | stopped serving server stopped early =>
    exact .inr ⟨serving, _, server, .inl ⟨Routine.done.inj same, stopped, early⟩⟩
  | late serving server running due =>
    exact .inr ⟨serving, _, server, .inr ⟨Routine.done.inj same, running, due⟩⟩
  | saysDraining _ _ => cases same
  | awaitsStop _ _ => cases same

end

/-! ### Coming to the end -/

section
variable {h : Host} {t : TaskId} {r : ResourceId} {w v : Server}

/-- The start returned without an error, and the server is stopped. -/
def Stops (r : ResourceId) (result : Except ResourceError Unit) (h : Host) : Prop :=
  result = .ok () ∧ ∃ u, h.server? r = some u ∧ u.stopped = true

theorem finishes_saysStopped (server : h.server? r = some v) (stopped : v.stopped = true) :
    Finishes (Stops r) w.saysStopped h :=
  .step (.done ⟨rfl, v, server, stopped⟩)

theorem finishes_awaitsIdle (server : h.server? r = some v) (idle : v.closeRequested = true ∧ v.inFlight = 0) :
    Finishes (Stops r) (w.awaitsIdle r) h := by
  have holds : Signal.holds h (.idle r) = true := by
    have server : (h.resource? r).bind (·.server?) = some v := server
    simp [Signal.holds, server, idle]
  refine .wait (exists_picks ⟨_, List.mem_singleton.2 rfl, holds⟩) fun i _ => .step ?_
  exact finishes_saysStopped (Host.server?_changeServer _ server) rfl

theorem finishes_reports (server : h.server? r = some v) (idle : v.closeRequested = true ∧ v.inFlight = 0) :
    Finishes (Stops r) (w.reports t r) h := by
  have server : (h.reportReady t).server? r = some v := server
  exact .step (finishes_awaitsIdle server idle)

theorem finishes_saysListening (server : h.server? r = some v) (idle : v.closeRequested = true ∧ v.inFlight = 0) :
    Finishes (Stops r) (w.saysListening t r) h := by
  have server : (h.emit (.listening w.options.name)).server? r = some v := server
  exact .step (finishes_reports server idle)

theorem finishes_holds (server : h.server? r = some v) (idle : v.closeRequested = true ∧ v.inFlight = 0)
    (ip : Net.Ip) : Finishes (Stops r) (w.holds t r ip) h :=
  .step (finishes_saysListening (Host.server?_changeServer _ server) idle)

/-- Once a close was requested and no request is left, a start comes to its end, wherever it stands. -/
theorem Stage.finishes {reported : Option (Except ResourceError Unit)} {tail : Tail}
    (stage : Stage t r w v reported tail) (server : h.server? r = some v)
    (idle : v.closeRequested = true ∧ v.inFlight = 0) :
    Finishes (fun result h' => reported = some (.ok ()) → Stops r result h') tail h := by
  have whatever {tail : Tail} (f : Finishes (Stops r) tail h) :
      Finishes (fun result h' => reported = some (.ok ()) → Stops r result h') tail h :=
    f.mono fun _ _ stops _ => stops
  cases stage with
  | refused _ _ => exact .done nofun
  | failed _ _ _ => exact .done nofun
  | binds _ _ =>
    refine .step ?_
    show Finishes _ (match h.network.bind w.options.address with
      | .error e => .done (.error (.bind w.options.address e.text))
      | .ok ip => w.holds t r ip) h
    cases h.network.bind w.options.address with
    | error e => exact .done nofun
    | ok ip => exact whatever (finishes_holds server idle ip)
  | holds ip _ _ => exact whatever (finishes_holds server idle ip)
  | saysListening _ _ => exact whatever (finishes_saysListening server idle)
  | reports _ _ => exact whatever (finishes_reports server idle)
  | awaitsIdle _ _ => exact whatever (finishes_awaitsIdle server idle)
  | saysStopped _ ended => exact whatever (finishes_saysStopped server ended.stopped)
  | returned _ ended => exact whatever (.done ⟨rfl, v, server, ended.stopped⟩)

theorem finishes_awaitsStop {d : Instant} (due : d ≤ h.now) :
    Finishes (fun _ _ => True) (w.awaitsStop r d) h := by
  have holds : Signal.holds h (.due d) = true := decide_eq_true due
  refine .wait (exists_picks ⟨_, List.mem_cons_of_mem _ List.mem_cons_self, holds⟩) fun i picks => ?_
  rcases picks_or_due picks with ⟨rfl, -⟩ | ⟨rfl, -, -⟩
  · exact .done trivial
  · exact .step (.done trivial)

/-- A close is over by its deadline. -/
theorem Leave.finishes {d since : Instant} {last : Host} {tail : Tail} (leave : Leave r d w since last h.now tail)
    (due : d ≤ h.now) : Finishes (fun _ _ => True) tail h := by
  cases leave with
  | unbound _ => exact .done trivial
  | stopped _ _ _ _ => exact .done trivial
  | late _ _ _ _ => exact .done trivial
  | saysDraining _ _ => exact .step (finishes_awaitsStop due)
  | awaitsStop _ _ => exact finishes_awaitsStop due

end

/-- Time does not pass a deadline at which a close looks up. -/
theorem Leave.tick {h h' : Host} {r : ResourceId} {d since : Instant} {w : Server} {last : Host} {tail : Tail}
    (leave : Leave r d w since last h.now tail) (rests : tail.Rests) (tick : Tick tail.signals h h') :
    Leave r d w since last h'.now tail := by
  cases leave with
  | unbound down => exact .unbound down
  | stopped serving server stopped early => exact .stopped serving server stopped early
  | late serving server running due => exact .late serving server running due
  | saysDraining _ _ => exact rests.elim
  | awaitsStop serving early =>
    obtain ⟨now, later, bounded, rfl⟩ := tick
    refine .awaitsStop serving ?_
    rcases Nat.eq_or_lt_of_le later with same | later
    · exact same ▸ early
    · exact Nat.le_trans (bounded d (List.mem_cons_of_mem _ List.mem_cons_self) later) (Nat.le_max_right _ _)

end Server

/-! ## The calls side by side -/

/-- How a call found the host, how the host was when it last went on, and what is left of it. -/
structure Ongoing where
  found : Host
  last : Host
  rest : Tail

structure OngoingClose extends Ongoing where
  deadline : Instant

structure Serving where
  host : Host
  start : Option Ongoing := none
  /-- In the order in which they were made. -/
  closes : List OngoingClose := []

namespace Serving

def tails (s : Serving) : List Tail := s.start.toList.map (·.rest) ++ s.closes.map (·.rest)

/-- The start is called once and looks at the server at once. A close leaves its request and looks whether the server
serves. It does not wait between the two, so they are one step here, in which their order does not show: a start that
gets to serve between them, on another thread, is seen by the look, as it is by a close that comes right after. Requests
come while the listener is up. The others leave the server and the report to these calls. -/
inductive Step (t : TaskId) (r : ResourceId) : Serving → Serving → Prop where
  | start {s rest h'} : s.start = none → (runStart t r).Goes s.host rest h' →
      Step t r s { s with host := h', start := some ⟨s.host, s.host, rest⟩ }
  | serve {s c rest h'} : s.start = some c → c.rest.Goes s.host rest h' →
      Step t r s { s with host := h', start := some { c with last := s.host, rest } }
  | close {s d looks rest h₁ h'} : (runClose r d).Goes s.host looks h₁ → looks.Goes h₁ rest h' →
      Step t r s { s with host := h', closes := s.closes ++ [⟨⟨s.host, s.host, rest⟩, d⟩] }
  | go {s before c after rest h'} : s.closes = before ++ c :: after → c.rest.Goes s.host rest h' →
      Step t r s { s with host := h', closes := before ++ { c with last := s.host, rest } :: after }
  | arrive {s v} : s.host.server? r = some v → v.serving = true → v.stopped = false →
      Step t r s { s with host := s.host.changeServer r fun v => { v with inFlight := v.inFlight + 1 } }
  | answer {s} : Step t r s { s with host := s.host.changeServer r fun v => { v with inFlight := v.inFlight - 1 } }
  | others {s h'} : h'.resource? r = s.host.resource? r → h'.report? t = s.host.report? t →
      h'.now = s.host.now → Step t r s { s with host := h' }
  | tick {s h'} : (∀ tail ∈ s.tails, tail.Rests) → Tick (s.tails.flatMap (·.signals)) s.host h' →
      Step t r s { s with host := h' }

/-- Where the calls stand. -/
structure Stands (t : TaskId) (r : ResourceId) (s : Serving) (v : Server)
    (reported : Option (Except ResourceError Unit)) : Prop where
  server : s.host.server? r = some v
  report : s.host.report? t = some reported
  before : s.start = none → v.Unbound ∧ reported = none
  start : ∀ c, s.start = some c → ∃ w, c.found.server? r = some w ∧ Server.Stage t r w v reported c.rest
  closes : ∀ c ∈ s.closes, ∃ w, c.found.server? r = some w ∧
    Server.Leave r c.deadline w c.found.now c.last s.host.now c.rest
  asked : v.closeRequested = true ↔ s.closes ≠ []

variable {t : TaskId} {r : ResourceId} {s s' : Serving} {v : Server} {reported : Option (Except ResourceError Unit)}

/-- A start begins with a look at the server. -/
theorem goes_runStart {h h' : Host} {rest : Tail} (server : h.server? r = some v)
    (goes : (runStart t r).Goes h rest h') : rest = serveRequests t r v ∧ h' = h := by
  obtain ⟨name, here⟩ := Host.resource?_of_server? server
  obtain ⟨rfl, rfl⟩ := Goes.of_step goes
  refine ⟨?_, rfl⟩
  show Routine.bind (.done (h'.resource? r)) _ = _
  rw [here]
  rfl

/-- So does a close, and it leaves its request at once. -/
theorem goes_runClose {h h₁ h' : Host} {d : Instant} {looks rest : Tail} (server : h.server? r = some v)
    (look : (runClose r d).Goes h looks h₁) (goes : looks.Goes h₁ rest h') :
    rest = (if !v.serving then .done (.ok ()) else v.saysDraining r d) ∧
      h' = h.modifyResource r Resource.requestClose := by
  obtain ⟨name, here⟩ := Host.resource?_of_server? server
  have begins : looks = closeServer r v d ∧ h₁ = h := by
    obtain ⟨rfl, rfl⟩ := Goes.of_step look
    refine ⟨?_, rfl⟩
    show Routine.bind (.done (h₁.resource? r)) _ = _
    rw [here]
    rfl
  obtain ⟨rfl, rfl⟩ := begins
  obtain ⟨rfl, rfl⟩ := Goes.of_step goes
  exact ⟨rfl, rfl⟩

/-- The server has drifted, and everything else that the calls look at is as it was. -/
theorem Stands.drift {h' : Host} {v' : Server} (st : s.Stands t r v reported) (drifts : Server.Drifts v v')
    (server : h'.server? r = some v') (report : h'.report? t = s.host.report? t) (now : h'.now = s.host.now)
    (asked : v'.closeRequested = v.closeRequested) : Stands t r { s with host := h' } v' reported where
  server := server
  report := report.trans st.report
  before none := ⟨drifts.unbound (st.before none).1, (st.before none).2⟩
  start c here := by
    obtain ⟨w, found, stage⟩ := st.start c here
    exact ⟨w, found, drifts.stage stage⟩
  closes c mem := by
    obtain ⟨w, found, leave⟩ := st.closes c mem
    exact ⟨w, found, now ▸ leave⟩
  asked := by rw [asked]; exact st.asked

theorem Stands.step (st : s.Stands t r v reported) (step : Step t r s s') :
    ∃ v' reported', s'.Stands t r v' reported' := by
  cases step with
  | start none goes =>
    obtain ⟨rfl, rfl⟩ := goes_runStart st.server goes
    obtain ⟨unbound, rfl⟩ := st.before none
    refine ⟨v, Option.none, st.server, st.report, nofun, ?_, st.closes, st.asked⟩
    rintro _ ⟨⟩
    refine ⟨v, st.server, ?_⟩
    rw [Server.serveRequests_eq]
    split
    · next asked => exact .refused asked unbound
    · next free => exact .binds (Bool.eq_false_iff.2 free) unbound
  | @serve c rest h' here goes =>
    obtain ⟨w, found, stage⟩ := st.start c here
    obtain ⟨now, v', reported', server, report, stage, asked⟩ := stage.goes st.server st.report goes
    refine ⟨v', reported', server, report, nofun, ?_, ?_, by rw [asked]; exact st.asked⟩
    · rintro _ ⟨⟩
      exact ⟨w, found, stage⟩
    · intro c mem
      obtain ⟨w, found, leave⟩ := st.closes c mem
      exact ⟨w, found, now ▸ leave⟩
  | @close d looks rest h₁ h' look goes =>
    obtain ⟨rfl, rfl⟩ := goes_runClose st.server look goes
    have drifts : Server.Drifts v { v with closeRequested := true } := ⟨rfl, rfl, rfl, fun _ => rfl, fun _ => id⟩
    refine ⟨_, reported, Host.server?_requestClose st.server, st.report, ?_, ?_, ?_, by simp⟩
    · exact fun none => ⟨drifts.unbound (st.before none).1, (st.before none).2⟩
    · intro c here
      obtain ⟨w, found, stage⟩ := st.start c here
      exact ⟨w, found, drifts.stage stage⟩
    · intro c mem
      rcases List.mem_append.1 mem with old | new
      · exact st.closes c old
      · obtain rfl := List.mem_singleton.1 new
        refine ⟨v, st.server, ?_⟩
        cases serving : v.serving with
        | false => exact .unbound serving
        | true => exact .saysDraining serving (Nat.le_max_left _ _)
  | @go before c after rest h' here goes =>
    obtain ⟨w, found, leave⟩ := st.closes c (here ▸ List.mem_append_right _ List.mem_cons_self)
    obtain ⟨⟨now, resources, tasks⟩, leave⟩ := leave.goes st.server goes
    have server : h'.server? r = some v := by rw [← st.server, Host.server?, Host.resource?, resources]; rfl
    have report : h'.report? t = some reported := by rw [← st.report, Host.report?, Host.task?, tasks]; rfl
    refine ⟨v, reported, server, report, st.before, st.start, fun x mem => ?_, ?_⟩
    · rcases List.mem_append.1 mem with mem | mem
      · obtain ⟨w, found, leave⟩ := st.closes x (here ▸ List.mem_append_left _ mem)
        exact ⟨w, found, now ▸ leave⟩
      · rcases List.mem_cons.1 mem with rfl | mem
        · exact ⟨w, found, leave⟩
        · obtain ⟨w, found, leave⟩ := st.closes x (here ▸ List.mem_append_right _ (List.mem_cons_of_mem _ mem))
          exact ⟨w, found, now ▸ leave⟩
    · rw [st.asked, here]
      simp
  | @arrive u server serving running =>
    obtain rfl : v = u := Option.some.inj (st.server.symm.trans server)
    have drifts : Server.Drifts v { v with inFlight := v.inFlight + 1 } := by
      refine ⟨rfl, rfl, rfl, id, fun off => ?_⟩
      simp [serving, running] at off
    exact ⟨_, reported, st.drift drifts (Host.server?_changeServer _ server) rfl rfl rfl⟩
  | answer =>
    have drifts : Server.Drifts v { v with inFlight := v.inFlight - 1 } :=
      ⟨rfl, rfl, rfl, id, fun _ none => by simp [none]⟩
    exact ⟨_, reported, st.drift drifts (Host.server?_changeServer _ st.server) rfl rfl rfl⟩
  | others resource report now =>
    have drifts : Server.Drifts v v := ⟨rfl, rfl, rfl, id, fun _ => id⟩
    refine ⟨v, reported, st.drift drifts ?_ report now rfl⟩
    rw [← st.server, Host.server?, resource]
    rfl
  | @tick h' rests tick =>
    refine ⟨v, reported, ?_, ?_, st.before, st.start, fun c listed => ?_, st.asked⟩
    · obtain ⟨now, -, -, rfl⟩ := tick
      exact st.server
    · obtain ⟨now, -, -, rfl⟩ := tick
      exact st.report
    · have mem : c.rest ∈ s.tails := List.mem_append_right _ (List.mem_map.2 ⟨c, listed, rfl⟩)
      obtain ⟨w, found, leave⟩ := st.closes c listed
      have bounded : Tick c.rest.signals s.host h' :=
        Tick.of_subset (fun x here => List.mem_flatMap.2 ⟨_, mem, here⟩) tick
      exact ⟨w, found, leave.tick (rests _ mem) bounded⟩

theorem Stands.steps (st : s.Stands t r v reported) (steps : ReflTransGen (Step t r) s s') :
    ∃ v' reported', s'.Stands t r v' reported' := by
  induction steps with
  | refl => exact ⟨v, reported, st⟩
  | tail _ step ih =>
    obtain ⟨v', reported', st⟩ := ih
    exact st.step step

/-- No start was called before a close, and one that was called since is over. -/
structure Late (t : TaskId) (r : ResourceId) (s : Serving) (v : Server) : Prop where
  stands : s.Stands t r v none
  asked : s.closes ≠ []
  start : ∀ c, s.start = some c → c.rest = .done (.error .closed)

theorem Late.unbound (late : s.Late t r v) : v.Unbound := by
  cases start : s.start with
  | none => exact (late.stands.before start).1
  | some c =>
    obtain ⟨w, -, stage⟩ := late.stands.start c start
    exact (Server.Stage.of_error (late.start c start ▸ stage)).1

theorem Late.step (late : s.Late t r v) (step : Step t r s s') : ∃ v', s'.Late t r v' := by
  obtain ⟨v', reported, stands⟩ := late.stands.step step
  have closes : s'.closes ≠ [] := by
    cases step with
    | close _ _ => simp
    | go _ _ => simp
    | start _ _ => exact late.asked
    | serve _ _ => exact late.asked
    | arrive _ _ _ => exact late.asked
    | answer => exact late.asked
    | others _ _ _ => exact late.asked
    | tick _ _ => exact late.asked
  have start : ∀ c, s'.start = some c → c.rest = .done (.error .closed) := by
    cases step with
    | start none goes =>
      rintro _ ⟨⟩
      obtain ⟨rfl, -⟩ := goes_runStart late.stands.server goes
      rw [Server.serveRequests_eq, if_pos (late.stands.asked.2 late.asked)]
      rfl
    | serve here goes =>
      rw [late.start _ here] at goes
      cases goes
    | close _ _ => exact late.start
    | go _ _ => exact late.start
    | arrive _ _ _ => exact late.start
    | answer => exact late.start
    | others _ _ _ => exact late.start
    | tick _ _ => exact late.start
  have silent : reported = none := by
    cases here : s'.start with
    | none => exact (stands.before here).2
    | some c =>
      obtain ⟨w, -, stage⟩ := stands.start c here
      exact (Server.Stage.of_error (start c here ▸ stage)).2
  exact ⟨v', silent ▸ stands, closes, start⟩

theorem Late.steps (late : s.Late t r v) (steps : ReflTransGen (Step t r) s s') : ∃ v', s'.Late t r v' := by
  induction steps with
  | refl => exact ⟨v, late⟩
  | tail _ step ih =>
    obtain ⟨v', late⟩ := ih
    exact late.step step

/-! ## What the calls come to -/

/-- However the calls interleave, this is what they come to. -/
structure Consistent (t : TaskId) (r : ResourceId) (s : Serving) : Prop where
  /-- A start that is called after a close binds nothing, reports nothing and is told that the server is closed. -/
  late : s.start = none → s.closes ≠ [] → ∀ s', ReflTransGen (Step t r) s s' →
    s'.host.report? t = some none ∧ (∃ v, s'.host.server? r = some v ∧ v.Unbound) ∧
      ∀ c, s'.start = some c → c.rest = .done (.error .closed)
  /-- A start that became ready fails no more, and returns only after a close and the last request. -/
  ready : s.host.report? t = some (some (.ok ())) → ∃ c, s.start = some c ∧
    ∀ result, c.rest = .done result → result = .ok () ∧ s.closes ≠ [] ∧ ∃ v, s.host.server? r = some v ∧ v.Over
  /-- A start that fails has bound nothing and reported nothing. -/
  failed : ∀ c e, s.start = some c → c.rest = .done (.error e) →
    s.host.report? t = some none ∧ ∃ v, s.host.server? r = some v ∧ v.Unbound
  /-- Once a close was requested and no request is left, the start ends, wherever the close came. -/
  ends : s.closes ≠ [] → ∀ c v, s.start = some c → s.host.server? r = some v → v.inFlight = 0 →
    Finishes (fun result h => s.host.report? t = some (some (.ok ())) → Server.Stops r result h) c.rest s.host
  /-- A close succeeds on a server that was not bound or is stopped, and otherwise gives up at its deadline. -/
  closed : ∀ c ∈ s.closes, ∀ result, c.rest = .done result → ∃ w, c.found.server? r = some w ∧
    (result = .ok () ∧ w.serving = false ∨ w.serving = true ∧ ∃ u, c.last.server? r = some u ∧
      (result = .ok () ∧ u.stopped = true ∧ c.last.now ≤ max c.found.now c.deadline ∨
        result = .error .closeTimedOut ∧ u.stopped = false ∧ c.deadline ≤ c.last.now))
  returns : ∀ c ∈ s.closes, c.deadline ≤ s.host.now → Finishes (fun _ _ => True) c.rest s.host
  /-- A request to stop stays, and an address is known exactly while the listener was bound. -/
  server : ∃ v, s.host.server? r = some v ∧ (v.closeRequested = true ↔ s.closes ≠ []) ∧
    (v.localIp.isSome = true ↔ v.serving = true) ∧ (v.serving = true → s.start.isSome)

theorem Stands.consistent (st : s.Stands t r v reported) : s.Consistent t r where
  late none asked s' steps := by
    obtain ⟨unbound, rfl⟩ := st.before none
    have begins : s.Late t r v := ⟨st, asked, fun c here => by rw [none] at here; cases here⟩
    obtain ⟨v', late⟩ := begins.steps steps
    exact ⟨late.stands.report, ⟨v', late.stands.server, late.unbound⟩, late.start⟩
  ready up := by
    obtain rfl : reported = some (.ok ()) := Option.some.inj (st.report.symm.trans up)
    cases here : s.start with
    | none => cases (st.before here).2
    | some c =>
      refine ⟨c, rfl, fun result ended => ?_⟩
      obtain ⟨w, -, stage⟩ := st.start c here
      obtain ⟨-, -, ⟨⟩⟩ | ⟨ok, ended, -⟩ := (ended ▸ stage).result
      exact ⟨ok, st.asked.1 ended.asked, v, st.server, ended⟩
  failed c e here ended := by
    obtain ⟨w, -, stage⟩ := st.start c here
    obtain ⟨unbound, rfl⟩ := Server.Stage.of_error (ended ▸ stage)
    exact ⟨st.report, v, st.server, unbound⟩
  ends asked c u here server none := by
    obtain rfl : v = u := Option.some.inj (st.server.symm.trans server)
    obtain ⟨w, -, stage⟩ := st.start c here
    refine (stage.finishes st.server ⟨st.asked.2 asked, none⟩).mono fun _ _ stops up => stops ?_
    exact Option.some.inj (st.report.symm.trans up)
  closed c mem result ended := by
    obtain ⟨w, found, leave⟩ := st.closes c mem
    exact ⟨w, found, (ended ▸ leave).result⟩
  returns c mem due := by
    obtain ⟨w, -, leave⟩ := st.closes c mem
    exact leave.finishes due
  server := by
    refine ⟨v, st.server, st.asked, ?_, fun serving => ?_⟩
    · cases here : s.start with
      | none =>
        obtain ⟨unbound, -⟩ := st.before here
        rw [unbound.localIp, unbound.serving]
        rfl
      | some c =>
        obtain ⟨w, -, stage⟩ := st.start c here
        rw [stage.localIp]
    · cases here : s.start with
      | none => exact absurd serving (Bool.eq_false_iff.1 (st.before here).1.serving)
      | some c => rfl

/-- One start and any closes of a new server, in any order and side by side. -/
theorem server_heeds_every_close {h : Host} {v : Server} (server : h.server? r = some v)
    (unbound : v.Unbound ∧ v.closeRequested = false) (silent : h.report? t = some none)
    (steps : ReflTransGen (Step t r) { host := h } s) : s.Consistent t r := by
  have begins : Stands t r { host := h } v none := by
    refine ⟨server, silent, fun _ => ⟨unbound.1, rfl⟩, ?_, ?_, ?_⟩
    · rintro c ⟨⟩
    · rintro c ⟨⟩
    · rw [unbound.2]
      exact ⟨Bool.false_ne_true.elim, fun asked => absurd rfl asked⟩
  obtain ⟨_, _, st⟩ := begins.steps steps
  exact st.consistent

/-- A server with a request in flight is closed, answers the request, and both calls return. -/
theorem drained_server_is_closed : ∃ h v s, h.server? 0 = some v ∧ (v.Unbound ∧ v.closeRequested = false) ∧
    h.report? 0 = some none ∧ ReflTransGen (Step 0 0) { host := h } s ∧
      s.start.map (·.rest) = some (.done (.ok ())) ∧ s.closes.map (·.rest) = [.done (.ok ())] ∧
        s.Consistent 0 0 := by
  let v : Server := { options := .new "127.0.0.1:8080" }
  let h : Host :=
    { coordinator := { config := {} }
      network := { Net.Network.isolated with bind := fun _ => .ok (.v4 [127, 0, 0, 1]) }
      resources := [⟨"http-server", .server v⟩]
      tasks := [⟨.start 0 .direct, 0, {}, none, none⟩] }
  have unbound : v.Unbound ∧ v.closeRequested = false := ⟨⟨rfl, rfl, rfl, rfl⟩, rfl⟩
  have idle {g : Host} (holds : (Signal.idle 0).holds g = true) : Picks [.idle 0] g 0 :=
    ⟨_, rfl, holds, nofun⟩
  have stopped {g : Host} (holds : (Signal.serverStopped 0).holds g = true) :
      Picks [.serverStopped 0, .due 10] g 0 := ⟨_, rfl, holds, nofun⟩
  have next {a b : Serving} {Q : Serving → Prop} (one : Step 0 0 a b)
      (more : ∃ s, ReflTransGen (Step 0 0) b s ∧ Q s) : ∃ s, ReflTransGen (Step 0 0) a s ∧ Q s :=
    more.imp fun _ => And.imp_left (ReflTransGen.head one)
  have run : ∃ s, ReflTransGen (Step 0 0) { host := h } s ∧ s.start.map (·.rest) = some (.done (.ok ())) ∧
      s.closes.map (·.rest) = [.done (.ok ())] := by
    -- The start looks, binds, holds the listener, says so and reports.
    refine next (.start rfl (.step ..)) (next (.serve rfl (.step ..)) (next (.serve rfl (.step ..)) ?_))
    refine next (.serve rfl (.step ..)) (next (.serve rfl (.step ..)) ?_)
    refine next (.arrive rfl rfl rfl) (next (.close (d := 10) (.step ..) (.step ..)) ?_)
    refine next (.go (show _ = [] ++ _ :: [] from rfl) (.step ..)) (next .answer ?_)
    refine next (.serve rfl (.wait (idle rfl))) (next (.serve rfl (.step ..)) ?_)
    exact ⟨_, .single (.go (show _ = [] ++ _ :: [] from rfl) (.wait (stopped rfl))), rfl, rfl⟩
  obtain ⟨s, run, start, closes⟩ := run
  exact ⟨h, v, s, rfl, unbound, rfl, run, start, closes, server_heeds_every_close rfl unbound rfl run⟩

end Serving

end ServiceHost.Lifecycle
