import ServiceHost.Proofs.Lifecycle.Conduct

/-! What holds between two calls of the coordinator. `Leaves` is a stretch of time in which the coordinator does
nothing for the resources in its care, `Keeps` one in which it does no more than it says. -/

namespace ServiceHost.Lifecycle

open Relation Routine

variable {D : Instant → Prop} {P : Prop} {h h' h'' : Host} {w : List Started}

/-- What holds at every moment. -/
structure Proper (h : Host) : Prop where
  books : Books h
  orderly : Orderly h.doings
  distinct : ((startsOf h.doings).map (·.task)).Nodup
  stopping : h.coordinator.phase = .shuttingDown ∨ h.coordinator.phase = .stopped →
    .stopping ∈ h.doings

/-- Nothing was closed yet. The coordinator holds the resources that are up, those in `w` are on their way,
and every other start has ended. -/
structure Upright (w : List Started) (h : Host) : Prop where
  held : (h.coordinator.started ++ w).Sublist (startsOf h.doings)
  up : ∀ x ∈ h.coordinator.started, .up x ∈ h.doings
  alive : ∀ x ∈ h.coordinator.started, h.outcome? x.task ≠ some .aborted
  others : ∀ x ∈ startsOf h.doings, x ∈ h.coordinator.started ++ w ∨ h.isEnded x.task = true
  unclosed : closesOf h.doings = []
  running : .stopping ∉ h.doings

/-- What holds between two calls. -/
structure Idle (h : Host) : Prop extends Proper h where
  fresh : h.coordinator.phase = .notStarted → h.coordinator.bootFailure = none →
    startsOf h.doings = [] ∧ addsOf h.doings = h.coordinator.pending ∧ ∀ q, .booted q ∉ h.doings
  upright : h.coordinator.phase = .notStarted ∨ h.coordinator.phase = .running → Upright [] h

/-! ## Steps that leave this alone -/

/-- A step that does nothing of the coordinator's and leaves what it holds and its starts alone. -/
structure Leaves (h h' : Host) : Prop where
  grows : h.Grows h'
  books : Books h → Books h'
  doings : h'.doings = h.doings
  start : ∀ {t r}, h.job? t = some (.start r .coordinator) → h'.outcome? t = some .aborted →
    h.outcome? t = some .aborted
  phase : h'.coordinator.phase = h.coordinator.phase
  bootFailure : h'.coordinator.bootFailure = h.coordinator.bootFailure
  pending : h'.coordinator.pending = h.coordinator.pending
  started : h'.coordinator.started = h.coordinator.started

theorem Frame.doings (f : Frame D [] [] h h') : h'.doings = h.doings := by
  rw [Host.doings, f.conduct, List.append_nil, Host.doings]

theorem Frame.leaves (f : Frame D [] [] h h') : Leaves h h' where
  grows := f.grows
  books := f.books
  doings := f.doings
  start hj ho := (f.start hj ho).resolve_right nofun
  phase := by rw [f.coordinator]
  bootFailure := by rw [f.coordinator]
  pending := by rw [f.coordinator]
  started := by rw [f.coordinator]

/-- A step on the coordinator's records alone, and on the trace. -/
theorem Leaves.of_same (hnow : h'.now = h.now) (htasks : h'.tasks = h.tasks)
    (htrigger : h.trigger.reason.isSome → h'.trigger = h.trigger)
    (hregistry : h'.registry = h.registry) (hhistory : h'.history = h.history)
    (hphase : h'.coordinator.phase = h.coordinator.phase)
    (hboot : h'.coordinator.bootFailure = h.coordinator.bootFailure)
    (hpending : h'.coordinator.pending = h.coordinator.pending)
    (hstarted : h'.coordinator.started = h.coordinator.started) : Leaves h h' where
  grows :=
    { now := Nat.le_of_eq hnow.symm
      tasks := fun t a ha => ⟨a, by simpa only [Host.task?, htasks] using ha, .refl a⟩
      trigger := fun r hr => by rw [htrigger (by simp [hr])]; exact hr
      registry := fun _ => hregistry
      history := ⟨[], by rw [hhistory, List.append_nil]⟩ }
  books b := b.of_same htasks hhistory hregistry
  doings := Host.doings_congr hhistory
  start _ ho := (Host.outcome?_congr htasks _).symm.trans ho
  phase := hphase
  bootFailure := hboot
  pending := hpending
  started := hstarted

theorem Leaves.trans (m : Leaves h h') (m' : Leaves h' h'') : Leaves h h'' where
  grows := m.grows.trans m'.grows
  books b := m'.books (m.books b)
  doings := m'.doings.trans m.doings
  start hj ho := m.start hj (m'.start (m.grows.job? hj) ho)
  phase := m'.phase.trans m.phase
  bootFailure := m'.bootFailure.trans m.bootFailure
  pending := m'.pending.trans m.pending
  started := m'.started.trans m.started

theorem Proper.leaves (p : Proper h) (m : Leaves h h') : Proper h' :=
  ⟨m.books p.books, m.doings ▸ p.orderly, m.doings ▸ p.distinct, by
    rw [m.phase, m.doings]
    exact p.stopping⟩

theorem Upright.job? (p : Proper h) (u : Upright w h) {x : Started}
    (hx : x ∈ h.coordinator.started ++ w) :
    h.job? x.task = some (.start x.resource .coordinator) :=
  p.books.started.2 (Host.mem_doings.1 (mem_startsOf.1 (u.held.subset hx))).1

theorem Upright.leaves (u : Upright w h) (p : Proper h) (m : Leaves h h') : Upright w h' where
  held := by rw [m.started, m.doings]; exact u.held
  up := by rw [m.started, m.doings]; exact u.up
  alive := by
    rw [m.started]
    exact fun x hx ho => u.alive x hx (m.start (u.job? p (List.mem_append_left _ hx)) ho)
  others x hx := by
    rw [m.started]
    exact (u.others x (m.doings ▸ hx)).imp_right m.grows.isEnded
  unclosed := by rw [m.doings]; exact u.unclosed
  running := by rw [m.doings]; exact u.running

theorem Idle.leaves (i : Idle h) (m : Leaves h h') : Idle h' where
  toProper := i.toProper.leaves m
  fresh hp hb := by
    rw [m.doings, m.pending]
    exact i.fresh (m.phase ▸ hp) (m.bootFailure ▸ hb)
  upright hp := (i.upright (m.phase ▸ hp)).leaves i.toProper m

theorem Leaves.spawn (h : Host) {j : Job} (hj : ∀ r, j ≠ .start r .coordinator) :
    Leaves h (h.spawn j).2 where
  grows := h.grows_spawn j
  books b := b.spawn hj
  doings := rfl
  start _ ho := by rwa [Host.outcome?_spawn] at ho
  phase := rfl
  bootFailure := rfl
  pending := rfl
  started := rfl

/-! ## Steps of the coordinator -/

/-- A deed is done that is no start and no close, and does not begin a shutdown. -/
theorem Upright.concat {d : Deed} (u : Upright w h) (hd : h'.doings = h.doings ++ [d])
    (hstart : d.start? = none) (hclose : d.close? = none) (hstop : d ≠ .stopping)
    (hs : h'.coordinator.started = h.coordinator.started) (ht : h'.tasks = h.tasks) : Upright w h' := by
  have hst : startsOf h'.doings = startsOf h.doings := by simp [hd, hstart]
  have ho : ∀ t, h'.outcome? t = h.outcome? t := Host.outcome?_congr ht
  exact
    { held := by rw [hst, hs]; exact u.held
      up := fun x hx => by rw [hd]; exact List.mem_append_left _ (u.up x (hs ▸ hx))
      alive := fun x hx => by rw [ho]; exact u.alive x (hs ▸ hx)
      others := fun x hx => by
        rw [hs, Host.isEnded, ho]
        exact u.others x (hst ▸ hx)
      unclosed := by simp [hd, u.unclosed, hclose]
      running := fun hmem => by
        rw [hd] at hmem
        rcases List.mem_append.1 hmem with hmem | hmem
        · exact u.running hmem
        · exact hstop (List.mem_singleton.1 hmem).symm }

/-- A deed that neither starts nor closes anything may be done at any time. -/
theorem Proper.record (p : Proper h) {d : Deed} (hd : d.isForeign = false)
    (hstart : ∀ s, d ≠ .start s) (hup : ∀ s, d = .up s → h.readiness s.task = some (.ok ()))
    (hsettled : ∀ s, d = .settled s → h.isEnded s.task = true) (hmay : d.MayFollow h.doings) :
    Proper (h.record d) where
  books := p.books.record hd hstart hup hsettled
  orderly := by rw [h.doings_record hd]; exact p.orderly.concat hmay
  distinct := by
    have hnone : d.start? = none := by cases d <;> first | rfl | exact absurd rfl (hstart _)
    simpa [h.doings_record hd, hnone] using p.distinct
  stopping hp := by rw [h.doings_record hd]; exact List.mem_append_left _ (p.stopping hp)

/-- The coordinator changes its records of what it holds. -/
theorem Proper.modifyCoordinator (p : Proper h) {f : Coordinator → Coordinator}
    (hf : (f h.coordinator).phase = h.coordinator.phase) : Proper (h.modifyCoordinator f) where
  books := p.books.of_same rfl rfl rfl
  orderly := p.orderly
  distinct := p.distinct
  stopping hp := p.stopping (hf ▸ hp)

/-- Once the coordinator is on its way down, nothing is left to be said about starts. -/
theorem Proper.idle (p : Proper h)
    (hp : h.coordinator.phase = .shuttingDown ∨ h.coordinator.phase = .stopped) : Idle h where
  toProper := p
  fresh hn := by rcases hp with hp | hp <;> rw [hp] at hn <;> cases hn
  upright hn := by rcases hp with hp | hp <;> rcases hn with hn | hn <;> rw [hp] at hn <;> cases hn

/-! ## What the coordinator does at most -/

/-- What stays as it is unless someone drains under a deadline of `D`. -/
structure Spares (D : Instant → Prop) (P : Prop) (h h' : Host) : Prop where
  grows : h.Grows h'
  steady : h.Steady P → h'.Steady P
  undrained : (∀ d, ¬ D d) → h'.registry.closed = h.registry.closed
  accepts : h.registry.closed = true → h'.accepts = h.accepts
  /-- Actions are put on a task by those who drain, before their deadline. -/
  invoked : ∀ {t b a d}, h.tasks.length ≤ t → h'.task? t = some b → b.job = .action a d →
    D d ∧ b.spawned < d

namespace Spares

theorem trans (k : Spares D P h h') (k' : Spares D P h' h'') : Spares D P h h'' where
  grows := k.grows.trans k'.grows
  steady hs := k'.steady (k.steady hs)
  undrained hD := (k'.undrained hD).trans (k.undrained hD)
  accepts hc := (k'.accepts (by rw [k.grows.registry hc]; exact hc)).trans (k.accepts hc)
  invoked {t b a d} hle hb hj := by
    rcases Nat.lt_or_ge t h'.tasks.length with hlt | hle'
    · obtain ⟨c, hc, hgrown⟩ := k'.grows.tasks t _ (List.getElem?_eq_getElem hlt)
      obtain rfl : c = b := Option.some.inj (hc.symm.trans hb)
      rw [hgrown.spawned]
      exact k.invoked hle (List.getElem?_eq_getElem hlt) (hgrown.job.symm.trans hj)
    · exact k'.invoked hle' hb hj

theorem of_frame {l : List (Instant × Deed)} {A : List TaskId} (f : Frame D l A h h')
    (hs : h.Steady P → h'.Steady P) : Spares D P h h' where
  grows := f.grows
  steady := hs
  undrained hD := (f.quiet hD).1
  accepts := f.accepts
  invoked hle hb hj := by
    rcases f.new_task hle hb with he | ⟨a, d, ha, hd, hlt⟩
    · rw [hj] at he
      exact he.elim
    · rw [hj] at ha
      cases ha
      exact ⟨hd, hlt⟩

/-- Unless someone drains, no action is put on a task. -/
theorem job?_action (k : Spares D P h h') (hD : ∀ d, ¬ D d) {t : TaskId} {a : Action} {d : Instant}
    (hj : h'.job? t = some (.action a d)) : h.job? t = some (.action a d) := by
  rcases Nat.lt_or_ge t h.tasks.length with hlt | hle
  · exact k.grows.job?_of_lt hlt hj
  · obtain ⟨b, hb, hbj⟩ := Option.map_eq_some_iff.1 hj
    exact absurd (k.invoked hle hb hbj).1 (hD d)

/-- A step that puts no action on a task. -/
theorem of_own (g : h.Grows h') (hreg : h'.registry = h.registry) (hres : h'.resources = h.resources)
    (hacc : h'.accepts = h.accepts)
    (hjobs : ∀ {t b a d}, h.tasks.length ≤ t → h'.task? t = some b → b.job ≠ .action a d) :
    Spares D P h h' where
  grows := g
  steady hs := hs.of_same (by rw [hreg]) hres
  undrained _ := by rw [hreg]
  accepts _ := hacc
  invoked hle hb hj := absurd hj (hjobs hle hb)

theorem mono {D' : Instant → Prop} (hD : ∀ {d}, D d → D' d) (k : Spares D P h h') :
    Spares D' P h h' :=
  { k with
    undrained := fun hn => k.undrained fun d hd => hn d (hD hd)
    invoked := fun hle hb hj => (k.invoked hle hb hj).imp_left hD }

end Spares

/-- No task is new. -/
theorem Host.no_new_task {t : TaskId} {b : Task} {j : Job} (hlen : h'.tasks.length = h.tasks.length)
    (hle : h.tasks.length ≤ t) (hb : h'.task? t = some b) : b.job ≠ j :=
  absurd (List.getElem?_eq_some_iff.1 hb).1 (Nat.not_lt.2 (hlen ▸ hle))

/-- From `h` to `h'` the coordinator did `l` and heard of no exit. -/
structure Keeps (D : Instant → Prop) (P : Prop) (l : List (Instant × Deed)) (h h' : Host) : Prop extends
    Spares D P h h' where
  exits : ∃ es, h'.exits = h.exits ++ es ∧ h'.arrivals = h.arrivals ++ es
  failure : h'.coordinator.failure = h.coordinator.failure
  conduct : h'.conduct = h.conduct ++ l

namespace Keeps

variable {l l' : List (Instant × Deed)} {A : List TaskId}

theorem trans (k : Keeps D P l h h') (k' : Keeps D P l' h' h'') : Keeps D P (l ++ l') h h'' where
  toSpares := k.toSpares.trans k'.toSpares
  exits := by
    obtain ⟨es, he, ha⟩ := k.exits
    obtain ⟨es', he', ha'⟩ := k'.exits
    exact ⟨es ++ es', by rw [he', he, List.append_assoc], by rw [ha', ha, List.append_assoc]⟩
  failure := k'.failure.trans k.failure
  conduct := by rw [k'.conduct, k.conduct, List.append_assoc]

theorem of_frame (f : Frame D l A h h') (hs : h.Steady P → h'.Steady P) : Keeps D P l h h' where
  toSpares := .of_frame f hs
  exits := f.exits
  failure := by rw [f.coordinator]
  conduct := f.conduct

theorem mono {D' : Instant → Prop} (hD : ∀ {d}, D d → D' d) (k : Keeps D P l h h') :
    Keeps D' P l h h' :=
  { k with toSpares := k.toSpares.mono hD }

/-- A step that puts no action on a task and writes nothing to the history. -/
theorem of_own (k : Spares D P h h') (hexits : h'.exits = h.exits) (hhistory : h'.history = h.history)
    (hfailure : h'.coordinator.failure = h.coordinator.failure) : Keeps D P [] h h' where
  toSpares := k
  exits := ⟨[], by rw [hexits, List.append_nil], by rw [Host.arrivals_congr hhistory, List.append_nil]⟩
  failure := hfailure
  conduct := by rw [Host.conduct_congr hhistory, List.append_nil]

/-- A step on the coordinator's records, the trigger and the trace. -/
theorem of_records (g : h.Grows h') (hreg : h'.registry = h.registry)
    (hres : h'.resources = h.resources) (htasks : h'.tasks = h.tasks) (hexits : h'.exits = h.exits)
    (hhistory : h'.history = h.history)
    (hfailure : h'.coordinator.failure = h.coordinator.failure) : Keeps D P [] h h' :=
  .of_own (.of_own g hreg hres (Host.accepts_congr hhistory) fun hle hb =>
    Host.no_new_task (by rw [htasks]) hle hb) hexits hhistory hfailure

theorem refl (h : Host) : Keeps D P [] h h := .of_records (.refl h) rfl rfl rfl rfl rfl rfl

theorem record (h : Host) {d : Deed} (hd : d.isForeign = false) :
    Keeps D P [(h.now, d)] h (h.record d) where
  toSpares := .of_own (h.grows_record d) rfl rfl (h.accepts_record_own hd) fun hle hb =>
    Host.no_new_task rfl hle hb
  exits := ⟨[], (List.append_nil _).symm, by rw [h.arrivals_record_own hd, List.append_nil]⟩
  failure := rfl
  conduct := h.conduct_record hd

theorem emit (h : Host) (e : Event) : Keeps D P [] h (h.emit e) :=
  .of_records (h.grows_note _) rfl rfl rfl rfl rfl rfl

theorem modifyCoordinator (h : Host) {f : Coordinator → Coordinator}
    (hf : (f h.coordinator).failure = h.coordinator.failure) :
    Keeps D P [] h (h.modifyCoordinator f) :=
  .of_records (h.grows_modifyCoordinator f) rfl rfl rfl rfl rfl hf

theorem spawn (h : Host) {j : Job} (hj : ∀ a e, j ≠ .action a e) : Keeps D P [] h (h.spawn j).2 := by
  refine .of_own (.of_own (h.grows_spawn j) rfl rfl rfl fun {t b a e} hle hb => ?_) rfl rfl rfl
  rw [Host.task?_spawn] at hb
  split at hb
  · cases hb
    exact hj a e
  · exact absurd (List.getElem?_eq_some_iff.1 hb).1 (Nat.not_lt.2 hle)

theorem abort (h : Host) (t : TaskId) : Keeps D P [] h (h.abort t) :=
  .of_own (.of_own (h.grows_finish t _) rfl rfl rfl fun hle hb =>
    Host.no_new_task (Host.length_finish ..) hle hb) rfl rfl rfl

theorem doings (k : Keeps D P l h h') : h'.doings = h.doings ++ l.map (·.2) := by
  rw [Host.doings, k.conduct, List.map_append, Host.doings]

end Keeps

theorem Peers.keeps (m : Peers D P h h') : Keeps D P [] h h' := .of_frame m.frame m.2

theorem Tick.keeps {signals : List Signal} (m : Tick signals h h') : Keeps D P [] h h' := by
  refine .of_frame m.frame ?_
  intro hs
  obtain ⟨t, -, -, rfl⟩ := m
  exact hs.of_same rfl rfl

theorem Waits.keeps {signals : List Signal} (w : Waits (Peers D P) signals h h') :
    Keeps D P [] h h' := .of_frame w.frame w.steady

theorem Others.keeps (o : Others (Peers D P) h h') : Keeps D P [] h h' :=
  Waits.keeps (Others.waits (s := []) o)

end ServiceHost.Lifecycle
