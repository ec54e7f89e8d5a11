import ServiceHost.Proofs.Lifecycle.Alarm
import ServiceHost.Proofs.Lifecycle.Arrival
import ServiceHost.Proofs.Lifecycle.Beside

/-! The first boot, attempt by attempt. Each resource is waited for no longer than the configuration
allows, what was seen of its start decides what becomes of it, and the first that does not come up is the
last that is started. -/

namespace ServiceHost.Lifecycle

open Relation Routine

variable {E : Host → Host → Prop} {D : Instant → Prop} {P : Prop} {h h₀ h' h'' g : Host} {r : ResourceId}
  {s : Started} {t : TaskId} {signals : List Signal}

/-! ## The steps of a boot -/

/-- No boot came to its end. -/
def Host.Unbooted (h : Host) : Prop :=
  h.coordinator.phase = .notStarted ∧ h.coordinator.bootFailure = none

/-- A step that the coordinator takes in a boot. Only in the first does it do more than look, tell and
listen. -/
inductive BootStep : Host → Host → Prop where
  | look (h : Host) : BootStep h h
  | tell (h : Host) {e : Event} : e.triggerCall? = none → BootStep h (h.emit e)
  | listen (h : Host) : BootStep h (Lifecycle.listen h)
  | takePending (h : Host) : h.Unbooted → BootStep h (Lifecycle.takePending h).2
  | launch (h : Host) (r : ResourceId) : h.Unbooted → BootStep h (h.launch r .coordinator).2
  | judge (h : Host) (o : StartOutcome) {e : Event} :
    h.Unbooted → e.triggerCall? = none → BootStep h (recordStart o e h)
  | giveUp (h : Host) (t : TaskId) (o : StartOutcome) {e : Event} : h.Unbooted → e.triggerCall? = none →
      BootStep h (recordStart o e (h.abort t))
  | hold (h : Host) (s : Started) : h.Unbooted →
      BootStep h ((h.modifyCoordinator fun c => { c with started := c.started ++ [s] }).record (.up s))
  | breakOff (h : Host) (e : BootError) (left : Nat) : h.Unbooted →
      BootStep h (((h.emit (.bootAborted e left)).modifyCoordinator fun c =>
        { c with bootFailure := some e.resource }).record (.booted (.error e)))
  | run (h : Host) (count : Nat) : h.Unbooted →
      BootStep h (((h.enter .running).emit (.bootDone count)).record (.booted (.ok ())))

/-! ## Attempts -/

/-- In a boot that began in `h₀`, the start of a resource was put on a new task in `launched`. What became
of it was seen in `decided`, within the time that the configuration allows. -/
structure Attempt (h₀ : Host) (s : Started) (launched decided h : Host) : Prop where
  before : h₀.Grows launched
  fresh : launched.task? s.task = some ⟨.start s.resource .coordinator, launched.now, {}, none, none⟩
  meanwhile : launched.Grows decided
  inTime : decided.now ≤ launched.now + h₀.coordinator.config.startupTimeoutMs
  after : decided.Grows h

/-- What was seen of a start, what it means for the boot and how it is counted. -/
inductive Fate (h₀ : Host) (s : Started) (launched decided : Host) :
    Except BootError Started → StartOutcome → Prop where
  | ready : decided.readiness s.task = some (.ok ()) → Fate h₀ s launched decided (.ok s) .ready
  /-- The start came back with an error before it reported. -/
  | failed {e} : decided.readiness s.task = some (.error e) → .came s.task (.error e) ∈ decided.deeds →
      Fate h₀ s launched decided (.error (.start (h₀.resourceName s.resource) e)) .failed
  /-- The task ended without a report. -/
  | aborted : decided.readiness s.task = none → decided.isEnded s.task = true →
      Fate h₀ s launched decided (.error (.aborted (h₀.resourceName s.resource))) .failed
  /-- There was neither a report nor an end in all that time. -/
  | timedOut : decided.readiness s.task = none → decided.isEnded s.task = false →
      decided.now = launched.now + h₀.coordinator.config.startupTimeoutMs →
      Fate h₀ s launched decided
        (.error (.timeout (h₀.resourceName s.resource) (.ofMillis h₀.coordinator.config.startupTimeoutMs)))
        .timedOut
  | interrupted {reason} : decided.trigger.reason = some reason →
      Fate h₀ s launched decided (.error (.interrupted (h₀.resourceName s.resource) reason)) .interrupted

/-- How a boot that began in `h₀` came to give up at the resource `r`, with the start that it made and the
outcome that it counted. -/
inductive GaveUp (h₀ : Host) (r : ResourceId) (h : Host) :
    BootError → List Started → List StartOutcome → Prop where
  /-- A stop was triggered before its turn. -/
  | beforehand {g reason} : h₀.Grows g → g.Grows h → g.trigger.reason = some reason →
      GaveUp h₀ r h (.interrupted (h₀.resourceName r) reason) [] []
  | attempted {t launched decided e o} : Attempt h₀ ⟨r, t⟩ launched decided h →
      Fate h₀ ⟨r, t⟩ launched decided (.error e) o → GaveUp h₀ r h e [⟨r, t⟩] [o]

/-- In a boot that began in `h₀` the resource came up in time, and its start was not aborted since. -/
structure Raised (h₀ : Host) (s : Started) (h : Host) : Prop where
  job : h.job? s.task = some (.start s.resource .coordinator)
  alive : h.outcome? s.task ≠ some .aborted
  attempt : ∃ launched decided, Attempt h₀ s launched decided h ∧ decided.readiness s.task = some (.ok ())

/-- Nobody else counts starts. -/
def Uncounted (E : Host → Host → Prop) : Prop := ∀ a b, E a b → b.metrics.starts = a.metrics.starts

/-- A boot that began in `h₀` has come to `h`: the starts `ups` came up one after another, besides them
only those in `tried` were made, and these are the outcomes. Apart from what it holds, and its listener,
the coordinator has its records changed by `f`. -/
structure BootCourse (E : Host → Host → Prop) (h₀ : Host) (f : Coordinator → Coordinator)
    (ups tried : List Started) (outcomes : List StartOutcome) (h : Host) : Prop where
  grows : h₀.Grows h
  names : ∀ r, h.resourceName r = h₀.resourceName r
  records : ∃ listener, h.coordinator =
    f { h₀.coordinator with started := h₀.coordinator.started ++ ups, listener }
  starts : startsOf h.doings = startsOf h₀.doings ++ ups ++ tried
  raised : ∀ s ∈ ups, Raised h₀ s h
  counted : Uncounted E → h.metrics.starts = h₀.metrics.starts ++ outcomes

namespace Coordinator

def emptied (c : Coordinator) : Coordinator := { c with pending := [] }

/-- Everything came up. -/
def running (c : Coordinator) : Coordinator :=
  { c with pending := [], phase := .running, entered := .running :: c.entered }

/-- The boot ended at a resource. -/
def brokenOff (name : String) (c : Coordinator) : Coordinator :=
  { c with pending := [], bootFailure := some name }

end Coordinator

/-- How the first boot ends. -/
inductive FirstBoot (E : Host → Host → Prop) (h : Host) : Except BootError Unit → Host → Prop where
  | up {ups h'} : h.coordinator.pending = ups.map (·.resource) →
      BootCourse E h .running ups [] (.replicate ups.length .ready) h' → FirstBoot E h (.ok ()) h'
  | brokeOff {ups r rest e tried outcomes h'} : h.coordinator.pending = ups.map (·.resource) ++ r :: rest →
      GaveUp h r h' e tried outcomes →
      BootCourse E h (.brokenOff (h.resourceName r)) ups tried
        (.replicate ups.length .ready ++ outcomes) h' →
      FirstBoot E h (.error e) h'

/-! ## The time of the others -/

/-- A stretch of time in which the boot does nothing that counts. -/
structure Idles (E : Host → Host → Prop) (h h' : Host) : Prop where
  frame : Frame anyone [] [] h h'
  counted : Uncounted E → h'.metrics.starts = h.metrics.starts

namespace Idles

theorem trans (i : Idles E h h') (i' : Idles E h' h'') : Idles E h h'' :=
  ⟨by simpa using i.frame.trans i'.frame, fun hu => (i'.counted hu).trans (i.counted hu)⟩

theorem emit (h : Host) (e : Event) : Idles E h (h.emit e) := ⟨.emit h e, fun _ => rfl⟩

section
variable (hE : ∀ {a b}, E a b → Move anyone a b)
include hE

theorem of_waits (w : Waits E signals h h') : Idles E h h' := by
  refine ⟨(Waits.peers (Waits.mono hE w)).frame, fun hu => ?_⟩
  refine w.preserve (K := fun g => g.metrics.starts = h.metrics.starts) (fun m hg => (hu _ _ m).trans hg)
    (fun m hg => ?_) rfl
  obtain ⟨t, -, -, rfl⟩ := m
  exact hg

theorem of_others (o : Others E h h') : Idles E h h' := of_waits hE (Others.waits (s := []) o)

end

end Idles

theorem Attempt.grows {launched decided : Host} (a : Attempt h₀ s launched decided h) (g : h.Grows h') :
    Attempt h₀ s launched decided h' :=
  { a with after := a.after.trans g }

theorem GaveUp.grows {e : BootError} {tried : List Started} {outcomes : List StartOutcome}
    (u : GaveUp h₀ r h e tried outcomes) (g : h.Grows h') : GaveUp h₀ r h' e tried outcomes := by
  cases u with
  | beforehand hg hg' ht => exact .beforehand hg (hg'.trans g) ht
  | attempted a f => exact .attempted (a.grows g) f

theorem GaveUp.resource {e : BootError} {tried : List Started} {outcomes : List StartOutcome}
    (u : GaveUp h₀ r h e tried outcomes) : e.resource = h₀.resourceName r := by
  cases u with
  | beforehand _ _ _ => rfl
  | attempted _ f => cases f <;> rfl

theorem Raised.grows (u : Raised h₀ s h) (g : h.Grows h')
    (ha : h'.outcome? s.task = some .aborted → h.outcome? s.task = some .aborted) : Raised h₀ s h' where
  job := g.job? u.job
  alive ho := u.alive (ha ho)
  attempt := by
    obtain ⟨launched, decided, a, hr⟩ := u.attempt
    exact ⟨launched, decided, a.grows g, hr⟩

theorem Raised.frame {l : List (Instant × Deed)} {A : List TaskId} (u : Raised h₀ s h) (f : Frame D l A h h')
    (hA : s.task ∉ A) : Raised h₀ s h' :=
  u.grows f.grows fun ho => (f.start u.job ho).resolve_right hA

namespace BootCourse

variable {f : Coordinator → Coordinator} {ups tried : List Started} {outcomes : List StartOutcome}

theorem begin (h : Host) : BootCourse E h id [] [] [] h where
  grows := .refl h
  names _ := rfl
  records := ⟨h.coordinator.listener, by simp⟩
  starts := by simp
  raised _ hs := absurd hs List.not_mem_nil
  counted _ := by simp

theorem idles (c : BootCourse E h₀ f ups tried outcomes h) (i : Idles E h h') :
    BootCourse E h₀ f ups tried outcomes h' where
  grows := c.grows.trans i.frame.grows
  names r := (i.frame.resourceName r).trans (c.names r)
  records := by rw [i.frame.coordinator]; exact c.records
  starts := by rw [i.frame.doings]; exact c.starts
  raised s hs := (c.raised s hs).frame i.frame nofun
  counted hu := (i.counted hu).trans (c.counted hu)

/-- The coordinator changes its records, and does nothing else but tell of it. -/
theorem modify {e : Coordinator → Coordinator} (c : BootCourse E h₀ f ups tried outcomes h)
    (ht : h'.tasks = h.tasks) (g : h.Grows h') (hres : h'.resources = h.resources)
    (hd : startsOf h'.doings = startsOf h.doings) (hm : h'.metrics = h.metrics)
    (hc : ∀ c : Coordinator, h.coordinator = f c → ∃ listener, h'.coordinator = e { c with listener }) :
    BootCourse E h₀ e ups tried outcomes h' where
  grows := c.grows.trans g
  names r := by
    rw [← c.names r]
    simp only [Host.resourceName, Host.resource?, hres]
  records := by
    obtain ⟨listener, hl⟩ := c.records
    exact hc _ hl
  starts := hd.trans c.starts
  raised s hs := (c.raised s hs).grows g (Host.outcome?_congr ht _ ▸ id)
  counted hu := by rw [hm, c.counted hu]

theorem unbooted (c : BootCourse E h₀ .emptied ups tried outcomes h) (hu : h₀.Unbooted) : h.Unbooted := by
  obtain ⟨listener, hc⟩ := c.records
  rw [Host.Unbooted, hc]
  exact hu

theorem timeout (c : BootCourse E h₀ .emptied ups tried outcomes h) :
    h.coordinator.config.startupTimeoutMs = h₀.coordinator.config.startupTimeoutMs := by
  obtain ⟨listener, hc⟩ := c.records
  rw [hc]
  rfl

/-- The start of the next resource is put on a task of its own. -/
theorem launch (c : BootCourse E h₀ f ups [] outcomes h) (r : ResourceId) :
    BootCourse E h₀ f ups [⟨r, h.tasks.length⟩] outcomes (h.launch r .coordinator).2 := by
  have g : h.Grows (h.launch r .coordinator).2 := (h.grows_spawn _).trans (Host.grows_record _ _)
  exact
    { grows := c.grows.trans g
      names := c.names
      records := c.records
      starts := by rw [h.startsOf_launch, c.starts, List.append_nil]
      raised := fun s hs => (c.raised s hs).grows g (h.outcome?_launch r s.task ▸ id)
      counted := c.counted }

theorem recordStart (c : BootCourse E h₀ f ups tried outcomes h) (o : StartOutcome) (e : Event) :
    BootCourse E h₀ f ups tried (outcomes ++ [o]) (recordStart o e h) := by
  have fr : Frame anyone [] [] h (Lifecycle.recordStart o e h) :=
    (Frame.of_move (.tally h _ (d := 0) trivial)).trans (.emit _ e)
  exact
    { grows := c.grows.trans fr.grows
      names := c.names
      records := c.records
      starts := c.starts
      raised := fun s hs => (c.raised s hs).frame fr nofun
      counted := fun hu => by
        show h.metrics.starts ++ [o] = _
        rw [c.counted hu, List.append_assoc] }

theorem abort (c : BootCourse E h₀ f ups tried outcomes h)
    (hj : h.job? t = some (.start r .coordinator)) (hne : ∀ s ∈ ups, s.task ≠ t) :
    BootCourse E h₀ f ups tried outcomes (h.abort t) := by
  have fr : Frame anyone [] [t] h (h.abort t) := .abort hj
  exact
    { grows := c.grows.trans fr.grows
      names := c.names
      records := c.records
      starts := c.starts
      raised := fun s hs => (c.raised s hs).frame fr fun hm => hne s hs (List.mem_singleton.1 hm)
      counted := c.counted }

/-- The start that was made came up. -/
theorem hold (c : BootCourse E h₀ .emptied ups [s] outcomes h) (u : Raised h₀ s h) :
    BootCourse E h₀ .emptied (ups ++ [s]) [] outcomes
      ((h.modifyCoordinator fun c => { c with started := c.started ++ [s] }).record (.up s)) := by
  have g : h.Grows
      ((h.modifyCoordinator fun c => { c with started := c.started ++ [s] }).record (.up s)) :=
    (h.grows_modifyCoordinator _).trans (Host.grows_record _ _)
  exact
    { grows := c.grows.trans g
      names := c.names
      records := by
        obtain ⟨listener, hc⟩ := c.records
        refine ⟨listener, ?_⟩
        show { h.coordinator with started := h.coordinator.started ++ [s] } = _
        simp [hc, Coordinator.emptied]
      starts := by
        rw [Host.startsOf_record _ rfl rfl, List.append_nil, ← List.append_assoc]
        exact c.starts
      raised := fun x hx => by
        rcases List.mem_append.1 hx with hx | hx
        · exact (c.raised x hx).grows g id
        · rw [List.mem_singleton.1 hx]
          exact u.grows g id
      counted := c.counted }

theorem listen (c : BootCourse E h₀ id ups tried outcomes h) :
    BootCourse E h₀ id ups tried outcomes (Lifecycle.listen h) := by
  unfold Lifecycle.listen
  split
  · have m : Leaves h (h.spawn .listen).2 := .spawn h (by rintro _ ⟨⟩)
    exact
      { grows := c.grows.trans ((h.grows_spawn _).trans (Host.grows_modifyCoordinator _ _))
        names := c.names
        records := by
          obtain ⟨listener, hc⟩ := c.records
          refine ⟨some h.tasks.length, ?_⟩
          show { h.coordinator with listener := some h.tasks.length } = _
          rw [hc]
          rfl
        starts := c.starts
        raised := fun s hs => (c.raised s hs).grows
          ((h.grows_spawn _).trans (Host.grows_modifyCoordinator _ _)) (m.start (c.raised s hs).job)
        counted := c.counted }
  · exact c

theorem takePending (c : BootCourse E h₀ id ups tried outcomes h) :
    BootCourse E h₀ .emptied ups tried outcomes (Lifecycle.takePending h).2 := by
  refine c.modify rfl (.of_same rfl rfl rfl rfl List.prefix_rfl) rfl rfl rfl fun k hk => ⟨k.listener, ?_⟩
  show { h.coordinator with pending := [] } = _
  rw [hk]
  rfl

theorem breakOff (c : BootCourse E h₀ .emptied ups tried outcomes h) (e : BootError) (left : Nat) :
    BootCourse E h₀ (.brokenOff e.resource) ups tried outcomes
      (((h.emit (.bootAborted e left)).modifyCoordinator fun c =>
        { c with bootFailure := some e.resource }).record (.booted (.error e))) := by
  refine c.modify rfl (.of_same rfl rfl rfl rfl (List.prefix_append ..)) rfl (Host.startsOf_record _ rfl rfl) rfl
    fun k hk => ⟨k.listener, ?_⟩
  show { h.coordinator with bootFailure := some e.resource } = _
  rw [hk]
  rfl

theorem run (c : BootCourse E h₀ .emptied ups tried outcomes h) (count : Nat) :
    BootCourse E h₀ .running ups tried outcomes
      (((h.enter .running).emit (.bootDone count)).record (.booted (.ok ()))) := by
  refine c.modify rfl (.of_same rfl rfl rfl rfl (List.prefix_append ..)) rfl (Host.startsOf_record _ rfl rfl) rfl
    fun k hk => ⟨k.listener, ?_⟩
  show { h.coordinator with phase := .running, entered := .running :: h.coordinator.entered } = _
  rw [hk]
  rfl

end BootCourse

/-! ## One attempt -/

/-- A report of an error is what a start came back with. -/
theorem Move.failed {e : ResourceError} (m : Move D h h') (hr : h'.readiness t = some (.error e)) :
    h.readiness t = some (.error e) ∨ .came t (.error e) ∈ h'.deeds := by
  cases m with
  | register a => rw [Host.register_only] at hr; exact .inl hr
  | closeRegistry _ => rw [Host.closeRegistry_only] at hr; exact .inl hr
  | spawn _ => rw [Host.readiness_spawn] at hr; exact .inl hr
  | launch a _ _ => rw [Host.readiness_spawn] at hr; exact .inl hr
  | deliver s => rw [Host.readiness_deliver] at hr; exact .inl hr
  | finish _ _ => rw [Host.readiness_finish] at hr; exact .inl hr
  | abort _ _ => rw [Host.abort, Host.readiness_finish] at hr; exact .inl hr
  | ready u =>
    rw [Host.readiness_reportReady] at hr
    split at hr
    · cases ho : h.readiness t <;> simp_all
    · exact .inl hr
  | comeBack result hj hn =>
    have c : CameBack _ _ result h _ := Host.cameBack hj hn
    refine (c.failed t e hr).imp_right ?_
    rintro ⟨rfl, rfl⟩
    exact c.told
  | _ => exact .inl hr

/-- The task had no report in the beginning. -/
theorem Waits.failed {e : ResourceError} (hE : ∀ {a b}, E a b → Move anyone a b) (w : Waits E signals h h')
    (hn : h.readiness t = none) (hr : h'.readiness t = some (.error e)) : .came t (.error e) ∈ h'.deeds := by
  induction w with
  | refl => rw [hn] at hr; cases hr
  | tail _ m ih =>
    obtain m | ⟨_, -, -, rfl⟩ := m
    · rcases (hE m).failed hr with hold | hcame
      · exact (hE m).grows.mem_deeds (ih hold)
      · exact hcame
    · exact ih hr

theorem Host.task?_launch (h : Host) (r : ResourceId) :
    (h.launch r .coordinator).2.task? h.tasks.length =
      some ⟨.start r .coordinator, h.now, {}, none, none⟩ :=
  (h.task?_spawn _ _).trans (if_pos rfl)

/-- What becomes of the next resource of a boot. -/
def Decided (E : Host → Host → Prop) (h₀ : Host) (ups : List Started) (outcomes : List StartOutcome)
    (r : ResourceId) (result : Except BootError Started) (h : Host) : Prop :=
  match result with
  | .ok s => s.resource = r ∧ Raised h₀ s h ∧
      BootCourse E h₀ .emptied ups [s] (outcomes ++ [.ready]) h
  | .error e => ∃ tried more, GaveUp h₀ r h e tried more ∧
      BootCourse E h₀ .emptied ups tried (outcomes ++ more) h

/-- The start `s` was made after the starts `ups` came up, and is looked at in `decided`. -/
structure Looked (E : Host → Host → Prop) (h₀ : Host) (ups : List Started) (outcomes : List StartOutcome)
    (s : Started) (launched decided : Host) : Prop where
  course : BootCourse E h₀ .emptied ups [s] outcomes decided
  attempt : Attempt h₀ s launched decided decided
  job : decided.job? s.task = some (.start s.resource .coordinator)
  alive : decided.outcome? s.task ≠ some .aborted
  other : ∀ x ∈ ups, x.task ≠ s.task
  told : ∀ e, decided.readiness s.task = some (.error e) → .came s.task (.error e) ∈ decided.deeds

/-- The next resource is put on a task, and some time later its start is looked at. -/
theorem BootCourse.looked {ups : List Started} {outcomes : List StartOutcome} {g decided : Host}
    (hE : ∀ {a b}, E a b → Move anyone a b) (c : BootCourse E h₀ .emptied ups [] outcomes h)
    (o : Others E (h.launch r .coordinator).2 g) (w : Waits E signals g decided)
    (hd : .due (g.now + h₀.coordinator.config.startupTimeoutMs) ∈ signals) :
    Looked E h₀ ups outcomes ⟨r, h.tasks.length⟩ (h.launch r .coordinator).2 decided := by
  have cl : BootCourse E h₀ .emptied ups [⟨r, h.tasks.length⟩] outcomes (h.launch r .coordinator).2 := c.launch r
  have w' : Waits E signals (h.launch r .coordinator).2 decided := (Others.waits o).trans w
  have i : Idles E (h.launch r .coordinator).2 decided := .of_waits hE w'
  have hnow : g.now = (h.launch r .coordinator).2.now := (Others.peers (Others.mono hE o)).now
  have hfresh := h.task?_launch r
  have hj : (h.launch r .coordinator).2.job? h.tasks.length = some (.start r .coordinator) := by
    simp [Host.job?, hfresh]
  have hnone : (h.launch r .coordinator).2.readiness h.tasks.length = none := by simp [Host.readiness, hfresh]
  have hrunning : (h.launch r .coordinator).2.outcome? h.tasks.length = none := by
    simp [Host.outcome?, hfresh, Task.outcome?]
  have htime : decided.now ≤ (h.launch r .coordinator).2.now + h₀.coordinator.config.startupTimeoutMs := by
    rw [← hnow]
    rcases Waits.now_le (fun m => (hE m).now) hd w with hle | heq
    · exact hle
    · rw [heq]
      exact Nat.le_add_right ..
  refine ⟨cl.idles i, ⟨cl.grows, hfresh, i.frame.grows, htime, .refl decided⟩, i.frame.grows.job? hj, fun ho => ?_,
    fun x hx => Nat.ne_of_lt (Host.lt_of_job? (c.raised x hx).job), fun e he => w'.failed hE hnone he⟩
  rcases i.frame.start hj ho with hold | hcoordinator
  · rw [hrunning] at hold
    cases hold
  · cases hcoordinator

/-- The terms of a boot: every wait of it is bounded, and each of its steps has its guard. -/
abbrev attemptTerms (E : Host → Host → Prop) : Terms :=
  { rely := E, guar := BootStep, timely := True, loops := False, panics := fun _ => False }

section
variable {ups : List Started} {outcomes : List StartOutcome} {launched decided : Host}
  (hE : ∀ {a b}, E a b → Move anyone a b) (hu : h₀.Unbooted)
include hE hu

theorem meets_judgeReport_decided {report : Option (Except ResourceError Unit)}
    (c : BootCourse E h₀ .emptied ups [s] outcomes h) (a : Attempt h₀ s launched decided h)
    (hj : h.job? s.task = some (.start s.resource .coordinator)) (ha : h.outcome? s.task ≠ some .aborted)
    (hreport : decided.readiness s.task = report)
    (htold : ∀ e, report = some (.error e) → .came s.task (.error e) ∈ decided.deeds)
    (hended : report = none → decided.isEnded s.task = true) :
    (judgeReport s.resource (h₀.resourceName s.resource) s.task report).Meets (attemptTerms E)
      (Decided E h₀ ups outcomes s.resource) h := by
  have hcourse : ∀ {o e h'}, Others E (recordStart o e h) h' →
      BootCourse E h₀ .emptied ups [s] (outcomes ++ [o]) h' := fun o =>
    (c.recordStart _ _).idles (.of_others hE o)
  have hgrows : ∀ {o e h'}, Others E (recordStart o e h) h' → h.Grows h' := fun {o e h'} w => by
    have g : h.Grows (recordStart o e h) := .of_same rfl rfl rfl rfl List.prefix_rfl
    exact g.trans (Idles.of_others hE w).frame.grows
  match report with
  | some (.ok ()) =>
    refine meets_update.2 ⟨trivial, .judge h _ (c.unbooted hu) rfl, fun h' o => ⟨trivial, rfl, ?_, hcourse o⟩⟩
    have u : Raised h₀ s (recordStart .ready (.ready (h₀.resourceName s.resource)) h) :=
      ⟨hj, ha, launched, decided, a.grows (.of_same rfl rfl rfl rfl List.prefix_rfl), hreport⟩
    exact u.frame (Idles.of_others hE o).frame nofun
  | some (.error e) =>
    refine meets_update.2 ⟨trivial, .judge h _ (c.unbooted hu) rfl, ?_⟩
    refine fun h' o => ⟨trivial, [s], [.failed], ?_, hcourse o⟩
    exact .attempted (a.grows (hgrows o)) (.failed hreport (htold e rfl))
  | none =>
    refine meets_update.2 ⟨trivial, .judge h _ (c.unbooted hu) rfl, ?_⟩
    refine fun h' o => ⟨trivial, [s], [.failed], ?_, hcourse o⟩
    exact .attempted (a.grows (hgrows o)) (.aborted hreport (hended rfl))

theorem meets_giveUp_decided {o : StartOutcome} {ev : Event} {e : BootError} (hev : ev.triggerCall? = none)
    (c : BootCourse E h₀ .emptied ups [s] outcomes h) (a : Attempt h₀ s launched decided h)
    (hj : h.job? s.task = some (.start s.resource .coordinator)) (hne : ∀ x ∈ ups, x.task ≠ s.task)
    (f : Fate h₀ s launched decided (.error e) o) :
    (do update fun g => recordStart o ev (g.abort s.task)
        return .error e : Routine (Except BootError Started)).Meets (attemptTerms E)
      (Decided E h₀ ups outcomes s.resource) h := by
  refine meets_update.2 ⟨trivial, .giveUp h _ _ (c.unbooted hu) hev, fun h' m => ⟨trivial, [s], [o], ?_, ?_⟩⟩
  · have g : h.Grows (recordStart o ev (h.abort s.task)) :=
      (h.grows_finish s.task .aborted).trans (.of_same rfl rfl rfl rfl List.prefix_rfl)
    exact .attempted (a.grows (g.trans (Idles.of_others hE m).frame.grows)) f
  · exact ((c.abort hj hne).recordStart _ _).idles (.of_others hE m)

theorem meets_startResource_decided (c : BootCourse E h₀ .emptied ups [] outcomes h) :
    (startResource r .coordinator h₀.coordinator.config.startupTimeoutMs).Meets (attemptTerms E)
      (Decided E h₀ ups outcomes r) h := by
  refine meets_read.2 ⟨trivial, .look h, fun h₁ o₁ => ?_⟩
  have c₁ := c.idles (.of_others hE o₁)
  refine meets_update.2 ⟨trivial, .tell h₁ rfl, fun h₂ o₂ => ?_⟩
  have c₂ := c₁.idles ((Idles.emit h₁ _).trans (.of_others hE o₂))
  refine meets_act.2 ⟨trivial, .launch h₂ r (c₂.unbooted hu), fun h₃ o₃ => ?_⟩
  rw [show (h₂.launch r .coordinator).1 = h₂.tasks.length from rfl, c.names r]
  refine meets_read.2 ⟨trivial, .look h₃, fun h₄ o₄ => ?_⟩
  refine meets_waitAny.2 ⟨fun _ => ⟨h₃.now + h₀.coordinator.config.startupTimeoutMs, by simp⟩, ?_⟩
  refine fun decided w => ⟨trivial, fun i hi => ?_⟩
  have l := c₂.looked hE o₃ ((Others.waits o₄).trans w) (by simp)
  rcases picks_start hi with ⟨rfl, hended⟩ | ⟨rfl, hnone, hopen, hdue⟩ | ⟨rfl, hstop⟩
  · refine meets_read.2 ⟨trivial, .look decided, fun h₅ o₅ => ?_⟩
    have i₅ : Idles E decided h₅ := .of_others hE o₅
    exact meets_judgeReport_decided hE hu (l.course.idles i₅) (l.attempt.grows i₅.frame.grows)
      (i₅.frame.grows.job? l.job) (fun ho => l.alive ((i₅.frame.start l.job ho).resolve_right nofun)) rfl
      l.told hended
  · have hlate : decided.now = (h₂.launch r .coordinator).2.now + h₀.coordinator.config.startupTimeoutMs := by
      rw [(Others.peers (Others.mono hE o₃)).now] at hdue
      exact Nat.le_antisymm l.attempt.inTime hdue
    exact meets_giveUp_decided hE hu rfl l.course l.attempt l.job l.other (.timedOut hnone hopen hlate)
  · obtain ⟨reason, hreason⟩ := Option.isSome_iff_exists.1 hstop
    refine meets_read.2 ⟨trivial, .look decided, fun h₅ o₅ => ?_⟩
    have i₅ : Idles E decided h₅ := .of_others hE o₅
    rw [hreason]
    exact meets_giveUp_decided hE hu rfl (l.course.idles i₅) (l.attempt.grows i₅.frame.grows)
      (i₅.frame.grows.job? l.job) l.other (.interrupted hreason)

/-! ## The boot -/

theorem meets_startNext_decided (c : BootCourse E h₀ .emptied ups [] outcomes h) :
    (startNext r).Meets (attemptTerms E) (Decided E h₀ ups outcomes r) h := by
  refine meets_read.2 ⟨trivial, .look h, fun h₁ o₁ => ?_⟩
  have c₁ := c.idles (.of_others hE o₁)
  split
  · next reason hreason =>
    refine meets_read.2 ⟨trivial, .look h₁, fun h₂ o₂ => ⟨trivial, [], [], ?_, ?_⟩⟩
    · rw [c₁.names r]
      exact .beforehand c.grows ((Idles.of_others hE o₁).trans (.of_others hE o₂)).frame.grows hreason
    · rw [List.append_nil]
      exact c₁.idles (.of_others hE o₂)
  · refine meets_read.2 ⟨trivial, .look h₁, fun h₂ o₂ => ?_⟩
    rw [c₁.timeout]
    exact meets_startResource_decided hE hu (c₁.idles (.of_others hE o₂))

/-- By induction on the resources: `ups` came up before them. -/
theorem meets_startEach_course {rs : List ResourceId}
    (c : BootCourse E h₀ .emptied ups [] (.replicate ups.length .ready) h) :
    (startEach rs).Meets (attemptTerms E) (fun result h' => match result with
      | .ok () => ∃ ups', rs = ups'.map (·.resource) ∧
          BootCourse E h₀ .emptied (ups ++ ups') [] (.replicate (ups ++ ups').length .ready) h'
      | .error e => ∃ ups' r rest tried more, rs = ups'.map (·.resource) ++ r :: rest ∧
          GaveUp h₀ r h' e tried more ∧
          BootCourse E h₀ (.brokenOff (h₀.resourceName r)) (ups ++ ups') tried
            (.replicate (ups ++ ups').length .ready ++ more) h') h := by
  induction rs generalizing ups h with
  | nil => exact ⟨trivial, [], rfl, by rwa [List.append_nil]⟩
  | cons r rest ih =>
    refine (meets_startNext_decided hE hu c).andThen fun result h₁ _ hd => ?_
    cases result with
    | ok s =>
      obtain ⟨rfl, u, c₁⟩ := hd
      refine meets_update.2 ⟨trivial, .hold h₁ s (c₁.unbooted hu), fun h₂ o₂ => ?_⟩
      have c₂ : BootCourse E h₀ .emptied (ups ++ [s]) [] (.replicate (ups ++ [s]).length .ready) h₂ := by
        rw [List.length_append, List.length_singleton, List.replicate_succ']
        exact (c₁.hold u).idles (.of_others hE o₂)
      refine (ih c₂).mono fun result h' _ hq => ?_
      cases result with
      | ok u =>
        obtain ⟨ups', hrest, c'⟩ := hq
        exact ⟨s :: ups', by rw [hrest]; rfl, by simpa using c'⟩
      | error e =>
        obtain ⟨ups', r, rest', tried, more, hrest, hg, c'⟩ := hq
        exact ⟨s :: ups', r, rest', tried, more, by rw [hrest]; rfl, hg, by simpa using c'⟩
    | error e =>
      obtain ⟨tried, more, hg, c₁⟩ := hd
      refine meets_update.2 ⟨trivial, .breakOff h₁ e rest.length (c₁.unbooted hu), fun h₂ o₂ => ?_⟩
      have i₂ : Idles E _ h₂ := .of_others hE o₂
      have c₂ := (c₁.breakOff e rest.length).idles i₂
      rw [hg.resource, ← List.append_nil ups] at c₂
      refine ⟨trivial, [], r, rest, tried, more, rfl, hg.grows ?_, c₂⟩
      have g : h₁.Grows (((h₁.emit (.bootAborted e rest.length)).modifyCoordinator fun c =>
        { c with bootFailure := some e.resource }).record (.booted (.error e))) :=
        .of_same rfl rfl rfl rfl (List.prefix_append ..)
      exact g.trans i₂.frame.grows

end

section
variable (hE : ∀ {a b}, E a b → Move anyone a b)
include hE

/-- A boot that is not the first only tells that it is not. -/
theorem meets_startAll_refused (hn : ¬ h.Unbooted) :
    startAll.Meets (attemptTerms E) (fun result _ => result = match h.coordinator.bootFailure with
      | some name => .error (.alreadyFailed name)
      | none => .ok ()) h := by
  refine meets_read.2 ⟨trivial, .look h, fun h₁ o₁ => ?_⟩
  cases hboot : h.coordinator.bootFailure with
  | some name => exact ⟨trivial, rfl⟩
  | none =>
    have hc : h₁.coordinator = h.coordinator := (Idles.of_others hE o₁).frame.coordinator
    have hphase : h₁.coordinator.phase ≠ .notStarted := fun hp => hn ⟨hc ▸ hp, hboot⟩
    refine meets_read.2 ⟨trivial, .look h₁, fun h₂ o₂ => ?_⟩
    rw [if_pos hphase]
    exact meets_update.2 ⟨trivial, .tell h₂ rfl, fun h₃ o₃ => ⟨trivial, rfl⟩⟩

theorem meets_startAll_first (hu : h.Unbooted) : startAll.Meets (attemptTerms E) (FirstBoot E h) h := by
  have hsame : ∀ {g}, BootCourse E h id [] [] [] g →
      g.Unbooted ∧ g.coordinator.pending = h.coordinator.pending := by
    intro g c
    obtain ⟨listener, hc⟩ := c.records
    rw [Host.Unbooted, hc]
    exact ⟨hu, rfl⟩
  refine meets_read.2 ⟨trivial, .look h, fun h₁ o₁ => ?_⟩
  have c₁ := (BootCourse.begin h).idles (.of_others hE o₁)
  rw [hu.2]
  refine meets_read.2 ⟨trivial, .look h₁, fun h₂ o₂ => ?_⟩
  have c₂ := c₁.idles (.of_others hE o₂)
  rw [if_neg (not_not.2 (hsame c₁).1.1)]
  refine meets_update.2 ⟨trivial, .listen h₂, fun h₃ o₃ => ?_⟩
  have c₃ := c₂.listen.idles (.of_others hE o₃)
  refine meets_act.2 ⟨trivial, .takePending h₃ (hsame c₃).1, fun h₄ o₄ => ?_⟩
  have c₄ := c₃.takePending.idles (.of_others hE o₄)
  rw [show (takePending h₃).1 = h.coordinator.pending from (hsame c₃).2]
  refine meets_update.2 ⟨trivial, .tell h₄ rfl, fun h₅ o₅ => ?_⟩
  have c₅ := c₄.idles ((Idles.emit h₄ _).trans (.of_others hE o₅))
  refine (meets_startEach_course hE hu c₅).andThen fun result h₆ _ hq => ?_
  cases result with
  | ok u =>
    obtain ⟨ups, hups, c₆⟩ := hq
    refine meets_update.2 ⟨trivial, .run h₆ _ (c₆.unbooted hu), fun h₇ o₇ => ⟨trivial, .up hups ?_⟩⟩
    exact (c₆.run _).idles (.of_others hE o₇)
  | error e =>
    obtain ⟨ups, r, rest, tried, more, hpending, hg, c₆⟩ := hq
    exact ⟨trivial, .brokeOff hpending hg c₆⟩

end

/-! ## What a start reports -/

/-- The start on this task is under way and did not report. -/
structure Unreported (t : TaskId) (r : ResourceId) (h : Host) : Prop where
  job : h.job? t = some (.start r .coordinator)
  silent : h.readiness t = none
  running : h.isEnded t = false

/-- A start that comes back unreported has its result as the report. -/
theorem Unreported.settle (u : Unreported t r h) (q : Except ResourceError Unit) :
    ((h.settle t r .coordinator q).finish t (.returned (.ok ()))).readiness t = some q ∧
      ((h.settle t r .coordinator q).finish t (.returned (.ok ()))).isEnded t = true := by
  constructor
  · obtain ⟨a, ha, -⟩ := Option.map_eq_some_iff.1 u.job
    have hr : a.readiness.report = none := by simpa [Host.readiness, ha] using u.silent
    rw [Host.readiness_finish, Host.settle_of_unreported ha hr, Host.readiness, Host.task?_modifyTask, if_pos rfl]
    simp [Host.record, Host.task?, show h.tasks[t]? = some a from ha]
  · rw [Host.isEnded, (Host.cameBack u.job u.running).self]
    rfl

theorem exists_run_start_returned {a k : Host} {q : Except ResourceError Unit} (audience : Audience)
    (hcall : Run E (callStart t r) a (.returned ()) k) (hreturn : Run E (runStart t r) k (.returned q) g) :
    ∃ rest, Run E ((Job.start r audience).routine t) a (.going rest) g ∧
      Finishes (fun _ g' => g' = (g.settle t r audience q).finish t (.returned (.ok ()))) rest g := by
  obtain ⟨rest, hr, hf⟩ : ∃ rest, Run E ((Job.start r audience).body t).attempt a (.going rest) g ∧
      Finishes (fun q' g' => q' = .ok (.ok ()) ∧ g' = g.settle t r audience q) rest g := by
    simp only [Job.body, attempt_bind]
    exact ⟨_, hcall.attempt.andThen (hreturn.attempt.attempt.andThen (.going _ g)), .step (.done ⟨rfl, rfl⟩)⟩
  exact finishes_routine hr hf

/-- What a start task leaves whose start ends before it reported: the result that was returned, or the
message of a panic in its future, is the report; a panic in the call leaves none. -/
structure Reports (E : Host → Host → Prop) (t : TaskId) (r : ResourceId) : Prop where
  returned : ∀ {a k g q}, Run E (callStart t r) a (.returned ()) k → Run E (runStart t r) k (.returned q) g →
    Unreported t r g → ∃ rest, Run E ((Job.start r .coordinator).routine t) a (.going rest) g ∧
      Finishes (fun _ g' => g'.readiness t = some q ∧ g'.isEnded t = true) rest g
  panicked : ∀ {a k g p}, Run E (callStart t r) a (.returned ()) k → Run E (runStart t r) k (.panicked p) g →
    Unreported t r g → ∃ rest, Run E ((Job.start r .coordinator).routine t) a (.going rest) g ∧
      Finishes (fun _ g' => g'.readiness t = some (.error (.ofPanic p)) ∧ g'.isEnded t = true) rest g
  lost : ∀ {a g p}, Run E (callStart t r) a (.panicked p) g → Unreported t r g →
    ∃ rest, Run E ((Job.start r .coordinator).routine t) a (.going rest) g ∧
      Finishes (fun _ g' => g'.readiness t = none ∧ g'.isEnded t = true) rest g

theorem start_reports (E : Host → Host → Prop) (t : TaskId) (r : ResourceId) : Reports E t r where
  returned {_ _ _ q} hcall hreturn u := by
    obtain ⟨rest, hr, hf⟩ := exists_run_start_returned .coordinator hcall hreturn
    refine ⟨rest, hr, hf.mono ?_⟩
    rintro - g' rfl
    exact u.settle q
  panicked {_ _ _ p} hcall hpanic u := by
    obtain ⟨rest, hr, hf⟩ := exists_run_start_panicked .coordinator hcall hpanic
    refine ⟨rest, hr, hf.mono ?_⟩
    rintro - g' rfl
    exact u.settle _
  lost hpanic u := by
    obtain ⟨rest, hr, hf⟩ := exists_run_call_panicked .coordinator hpanic
    refine ⟨rest, hr, hf.mono ?_⟩
    rintro - g' rfl
    exact ⟨(Host.readiness_finish ..).trans u.silent, Host.isEnded_finish_self u.job⟩

/-- However the starts behave and whenever a stop is triggered, the first boot returns: with every
resource up, in order, or at the first that did not come up, with those before it held and running and
those after it never started. What a start is seen to report is what it returned or panicked with. -/
theorem first_boot_comes_up_or_breaks_off (hE : ∀ {a b}, E a b → Move anyone a b) (hu : h.Unbooted) :
    startAll.Returns E (fun _ => True) h (FirstBoot E h) ∧ ∀ E' t r, Reports E' t r :=
  ⟨(meets_startAll_first hE hu).weaken id (fun _ _ => trivial) id id id fun _ => id, start_reports⟩

/-- Others who count no starts. -/
def Uncounting (h h' : Host) : Prop := Move anyone h h' ∧ h'.metrics.starts = h.metrics.starts

/-- Of three resources the first comes up, and the start of the second comes back with an error: the first is held, the
third is never started, and two starts are counted. -/
theorem first_boot_of_three_resources : ∃ (h h' : Host) (result : Except BootError Unit), h.Unbooted ∧
    h.coordinator.pending = [0, 1, 2] ∧ result = .error (.start "web" (.io "refused")) ∧
    Run Uncounting startAll h (.returned result) h' ∧ h'.coordinator.started = [⟨0, 0⟩] ∧ h'.tasks.length = 2 ∧
    h'.metrics.starts = [.ready, .failed] ∧ FirstBoot Uncounting h result h' := by
  obtain ⟨h, h', result, hu, hpending, hresult, hrun, hstarted, htasks, hmetrics⟩ : ∃ (h h' : Host)
      (result : Except BootError Unit), h.Unbooted ∧ h.coordinator.pending = [0, 1, 2] ∧
      result = .error (.start "web" (.io "refused")) ∧ Run Uncounting startAll h (.returned result) h' ∧
      h'.coordinator.started = [⟨0, 0⟩] ∧ h'.tasks.length = 2 ∧ h'.metrics.starts = [.ready, .failed] := by
    apply Exists.intro { coordinator := { config := { handleSignals := false }, pending := [0, 1, 2] },
                         resources := [.scripted "db" {}, .scripted "web" {}, .scripted "log" {}] }
    apply Exists.intro
    refine ⟨_, ⟨rfl, rfl⟩, rfl, rfl, ?run, ?_, ?_, ?_⟩
    case run =>
      iterate 11 apply Run.step .refl
      apply Run.wait (i := 0) (.single (.inl ⟨.ready _ 0, rfl⟩)) ⟨_, rfl, rfl, fun _ => nofun⟩
      iterate 9 apply Run.step .refl
      apply Run.wait (i := 0) (.single (.inl ⟨.comeBack (t := 1) _ (.error (.io "refused")) rfl rfl, rfl⟩))
        ⟨_, rfl, rfl, fun _ => nofun⟩
      iterate 3 apply Run.step .refl
      exact .done _ _
    · rfl
    · rfl
    · rfl
  have hboot := ((first_boot_comes_up_or_breaks_off (E := Uncounting) And.left hu).1.of_run hrun).2.1 _ rfl
  exact ⟨h, h', result, hu, hpending, hresult, hrun, hstarted, htasks, hmetrics, hboot⟩

end ServiceHost.Lifecycle
