import ServiceHost.Proofs.Lifecycle.Drain
import ServiceHost.Proofs.Lifecycle.Idle

/-! The shutdown: a drain, the closes and a last look at the queued exits, all under one deadline. -/

namespace ServiceHost.Lifecycle

open Relation Routine

variable {D : Instant → Prop} {P : Prop} {h h' h'' g g' : Host} {ss : List Started} {d : Instant}
  {reason : StopReason}

/-- The deadline of a shutdown that begins now. -/
def Host.shutdownDeadline (h : Host) : Instant := h.now + h.coordinator.config.shutdownTimeoutMs

/-- No shutdown has begun. -/
def Host.IsUp (h : Host) : Prop := h.coordinator.phase = .notStarted ∨ h.coordinator.phase = .running

theorem Host.isUp_of_not_down (hp : ¬ (h.coordinator.phase = .shuttingDown ∨
    h.coordinator.phase = .stopped)) : h.IsUp := by
  unfold IsUp
  cases hc : h.coordinator.phase <;> simp_all

theorem Host.not_isUp (hp : h.coordinator.phase = .shuttingDown ∨ h.coordinator.phase = .stopped) : ¬ h.IsUp := by
  rintro (hu | hu) <;> rcases hp with hp | hp <;> rw [hp] at hu <;> cases hu

/-- The terms of a shutdown that begins in `h`. -/
abbrev downTerms (D : Instant → Prop) (P : Prop) (h : Host) : Terms :=
  timelyTerms D P fun g => Idle g ∧ g.now ≤ h.shutdownDeadline

/-! ## The beginning -/

/-- A shutdown was begun in `h`, and nothing else was done since. -/
structure Begun (D : Instant → Prop) (P : Prop) (h g : Host) : Prop where
  proper : Proper g
  phase : g.coordinator.phase = .shuttingDown
  started : g.coordinator.started = h.coordinator.started
  keeps : ∃ t, Keeps D P [(t, .stopping)] h g
  start : ∀ {t r}, h.job? t = some (.start r .coordinator) → g.outcome? t = some .aborted →
    h.outcome? t = some .aborted
  now : g.now = h.now

theorem keeps_beginShutdown (h : Host) (reason : StopReason) :
    Keeps D P [(h.now, .stopping)] h (beginShutdown reason h).2 := by
  have hfire : Keeps D P [] h (h.fire reason).2 :=
    .of_records (h.grows_fire reason) rfl rfl rfl rfl rfl rfl
  have henter : Keeps D P [] h ((h.fire reason).2.enter .shuttingDown) :=
    hfire.trans (.modifyCoordinator _ rfl)
  exact (henter.trans (.record _ rfl)).trans (.emit _ _)

theorem Proper.begin (p : Proper h) (o : Others (Peers D P) h g)
    (o' : Others (Peers D P) (beginShutdown reason g).2 g') : Begun D P h g' := by
  have pg : Proper g := p.leaves o.frame.leaves
  have hd : (beginShutdown reason g).2.doings = g.doings ++ [.stopping] :=
    (keeps_beginShutdown (D := D) (P := P) g reason).doings
  have hentered : Books ((g.fire reason).2.enter .shuttingDown) := pg.books.of_same rfl rfl rfl
  have pb : Proper (beginShutdown reason g).2 :=
    { books := (hentered.record rfl (by rintro _ ⟨⟩) (by rintro _ ⟨⟩) (by rintro _ ⟨⟩)).of_same rfl rfl rfl
      orderly := by rw [hd]; exact pg.orderly.concat trivial
      distinct := by simpa [hd, Deed.start?] using pg.distinct
      stopping := fun _ => by rw [hd]; exact List.mem_append_right _ List.mem_cons_self }
  have m : Leaves (beginShutdown reason g).2 g' := o'.frame.leaves
  exact
    { proper := pb.leaves m
      phase := m.phase.trans rfl
      started := by
        have hg : g.coordinator.started = h.coordinator.started := by rw [o.frame.coordinator]
        exact m.started.trans hg
      keeps := ⟨_, by simpa using (o.keeps.trans (keeps_beginShutdown g reason)).trans o'.keeps⟩
      start := fun {t r} hj ho => by
        have hb : (beginShutdown reason g).2.outcome? t = some .aborted :=
          m.start (r := r) (o.frame.grows.job? hj) ho
        exact o.frame.leaves.start hj hb
      now := o'.now.trans o.now }

/-! ## The drain -/

section
variable {K : Host → Failures → Host → Prop}

theorem Begun.meets_drain (b : Begun D P h g) (hs : h.Steady P)
    (hK : (drain h.shutdownDeadline).Meets { rely := Peers D P } (K g) g) :
    (drain h.shutdownDeadline).Meets (downTerms D P h) (fun fs g' =>
      (Draining D P h.shutdownDeadline g g' ∧ g'.registry.closed = true) ∧ K g fs g') g := by
  obtain ⟨t, k⟩ := b.keeps
  refine ((meets_drain_inTime (k.steady hs)).and hK id).weaken id (fun _ _ => trivial) (fun ha => ?_) id
    (fun hl => hl.1) fun _ hp => hp.1
  have m := ha.1.frame.leaves
  refine ⟨(b.proper.leaves m).idle (.inl (m.phase.trans b.phase)), ?_⟩
  rcases ha.1.inTime with hle | heq
  · exact hle
  · rw [heq, b.now]
    exact Nat.le_add_right ..

end

/-! ## The closes -/

/-- The resources `ss` came up, were not closed yet and are all whose start may still run. -/
structure Poised (ss : List Started) (h : Host) : Prop extends Closable h ss where
  held : ss.Sublist (startsOf h.doings)
  up : ∀ x ∈ ss, .up x ∈ h.doings
  others : ∀ x ∈ startsOf h.doings, x ∈ ss ∨ h.isEnded x.task = true
  unclosed : closesOf h.doings = []

theorem Upright.poised {l : List (Instant × Deed)} (u : Upright [] h) (p : Proper h) (k : Keeps D P l h g)
    (hstart : ∀ {t r}, h.job? t = some (.start r .coordinator) → g.outcome? t = some .aborted →
      h.outcome? t = some .aborted)
    (hl : startsOf (l.map (·.2)) = []) (hl' : closesOf (l.map (·.2)) = []) :
    Poised h.coordinator.started g := by
  have hst : startsOf g.doings = startsOf h.doings := by
    rw [k.doings, startsOf_append, hl, List.append_nil]
  have hheld : h.coordinator.started.Sublist (startsOf h.doings) := by
    simpa using u.held
  have hj : ∀ x ∈ h.coordinator.started, h.job? x.task = some (.start x.resource .coordinator) :=
    fun x hx => u.job? p (List.mem_append_left _ hx)
  exact
    { starts := fun x hx => k.grows.job? (hj x hx)
      alive := fun x hx ho => u.alive x hx (hstart (hj x hx) ho)
      distinct := p.distinct.sublist (hheld.map _)
      held := by rw [hst]; exact hheld
      up := fun x hx => by rw [k.doings]; exact List.mem_append_left _ (u.up x hx)
      others := fun x hx => by
        rw [hst] at hx
        exact (u.others x hx).imp (by simp) k.grows.isEnded
      unclosed := by rw [k.doings, closesOf_append, u.unclosed, hl']; rfl }

/-- While the resources are closed, nothing is done out of order. -/
theorem Poised.tending (c : Poised ss h) (p : Proper h)
    (hdrained : ∃ fs, .drained fs ∈ h.doings) (ht : TendingEach D P ss d h g) : Proper g := by
  obtain ⟨l, L, A, hL, hl, -, m⟩ := ht
  have hd : g.doings = h.doings ++ l.map (·.2) := by
    rw [Host.doings, m.frame.conduct, List.map_append, Host.doings]
  have hnodup : ss.Nodup := List.Pairwise.of_map _ (fun _ _ hne e => hne (congrArg _ e)) c.distinct
  have ho : Orderly (h.doings ++ L.map (·.2)) := by
    refine p.orderly.closeLog hL ?_ ?_ c.up hdrained ?_
    · rw [c.unclosed]; exact c.held
    · rw [c.unclosed]; exact hnodup
    · rw [c.unclosed]; exact fun _ hx => absurd hx List.not_mem_nil
  exact
    { books := m.frame.books p.books
      orderly := by
        rw [hd]
        exact ho.of_prefix (List.prefix_append_right_inj _ |>.2 (hl.map _))
      distinct := by
        have hnone : startsOf (l.map (·.2)) = [] := List.prefix_nil.1 (hL.starts ▸ (hl.map _).filterMap _)
        simpa [hd, hnone] using p.distinct
      stopping := fun hp => by
        rw [m.frame.coordinator] at hp
        rw [hd]
        exact List.mem_append_left _ (p.stopping hp) }

section
variable (D : Instant → Prop) (P : Prop) (K : Host → Failures → Host → Prop)

/-- The course of a shutdown that began in `h`, with the drain over and the closes come as far as `l`. -/
structure Course (h : Host) (drained : Failures) (l : List (Instant × Deed)) (g : Host) : Prop where
  stages : ∃ g₁ g₂ t₁ t₂, Keeps D P [(t₁, .stopping)] h g₁ ∧
    Keeps (OrUnder D h.shutdownDeadline) P [] g₁ g₂ ∧ K g₁ drained g₂ ∧
    Keeps D P ((t₂, .drained drained) :: l) g₂ g
  proper : Proper g
  phase : g.coordinator.phase = .shuttingDown
  started : g.coordinator.started = []
  settling : g.Settling P
  now : g.now ≤ h.shutdownDeadline

/-- Every start task of the coordinator has ended. -/
def Host.StartsEnded (h : Host) : Prop :=
  ∀ t r, h.job? t = some (.start r .coordinator) → h.isEnded t = true

/-- What a shutdown that began in `h` leaves behind, with the failures that it gives. -/
structure ShutDown (h : Host) (failures : Failures) (h' : Host) : Prop where
  idle : Idle h'
  now : h'.now ≤ h.shutdownDeadline
  phase : h'.coordinator.phase = .stopped
  started : h'.coordinator.started = []
  closed : h'.registry.closed = true
  ended : h'.StartsEnded
  failure : h'.coordinator.failure = h.coordinator.failure
  course : ∃ g drained closed l t, Course D P K h drained l g ∧
    Verdicts g h.shutdownDeadline h.coordinator.started closed l ∧ g.StartsEnded ∧
    failures = drained ++ closed ++ g.exits.flatMap exitFailures ∧ Spares D P g h' ∧
    h'.conduct = g.conduct ++ [(t, .stopped failures)]

end

section
variable {K : Host → Failures → Host → Prop} {drained : Failures} {l : List (Instant × Deed)}

/-- What was done in all, and when. -/
theorem ShutDown.conduct {fs : Failures} (c : ShutDown D P K h fs h') :
    ∃ t₁ t₂ t₃ drained l, CloseLog h.shutdownDeadline h.coordinator.started l ∧
      h'.conduct = h.conduct ++ (t₁, .stopping) :: (t₂, .drained drained) :: l ++ [(t₃, .stopped fs)] := by
  obtain ⟨g, drained, closed, l, t₃, c, v, -, -, -, he⟩ := c.course
  obtain ⟨g₁, g₂, t₁, t₂, k₁, k₂, -, k₃⟩ := c.stages
  exact ⟨t₁, t₂, t₃, drained, l, v.log, by simp [he, k₃.conduct, k₂.conduct, k₁.conduct]⟩

/-- Actions are put on a task by the drain of the shutdown, or by others who drain. -/
theorem ShutDown.spares {fs : Failures} (c : ShutDown D P K h fs h') :
    Spares (OrUnder D h.shutdownDeadline) P h h' := by
  obtain ⟨g, drained, closed, l, t₃, c, -, -, -, s, -⟩ := c.course
  obtain ⟨g₁, g₂, t₁, t₂, k₁, k₂, -, k₃⟩ := c.stages
  exact ((k₁.toSpares.mono .inl).trans k₂.toSpares).trans ((k₃.toSpares.trans s).mono .inl)

theorem Course.idle (c : Course D P K h drained l g) : Idle g := c.proper.idle (.inl c.phase)

theorem Course.closing {l' : List (Instant × Deed)} {A : List TaskId}
    (c : Course D P K h drained l g) (m : Closing D P h.shutdownDeadline l' A g g') (p : Proper g') :
    Course D P K h drained (l ++ l') g' where
  stages := by
    obtain ⟨g₁, g₂, t₁, t₂, k₁, k₂, hk, k₃⟩ := c.stages
    exact ⟨g₁, g₂, t₁, t₂, k₁, k₂, hk, k₃.trans (.of_frame m.frame fun _ => m.settling.2)⟩
  proper := p
  phase := by rw [m.frame.coordinator]; exact c.phase
  started := by rw [m.frame.coordinator]; exact c.started
  settling := m.settling
  now := m.inTime.elim id fun e => e ▸ c.now

theorem keeps_takeStarted (drained : Failures) (g : Host) :
    Keeps D P [(g.now, .drained drained)] g (Lifecycle.takeStarted drained g).2 := by
  have hempty : Keeps D P [] g (g.modifyCoordinator fun c => { c with started := [] }) :=
    .modifyCoordinator g rfl
  exact hempty.trans (.record (g.modifyCoordinator fun c => { c with started := [] }) rfl)

/-- With the drain over, the coordinator takes what is to be closed. -/
theorem Begun.takeStarted (b : Begun D P h g) (u : Upright [] h) (p : Proper h)
    (m : Draining D P h.shutdownDeadline g g') (hclosed : g'.registry.closed = true)
    (hK : K g drained g') (o : Others (Peers D P) (takeStarted drained g').2 h') :
    Course D P K h drained [] h' ∧ Poised h.coordinator.started h' ∧ ∃ fs, .drained fs ∈ h'.doings := by
  obtain ⟨t₁, k₁⟩ := b.keeps
  have k₂ : Keeps (OrUnder D h.shutdownDeadline) P [] g g' := .of_frame m.frame fun _ => m.steady
  have k₃ : Keeps D P [(g'.now, .drained drained)] g' h' := by
    simpa using (keeps_takeStarted drained g').trans o.keeps
  have hnow : g'.now ≤ h.shutdownDeadline := by
    rcases m.inTime with hle | heq
    · exact hle
    · rw [heq, b.now]
      exact Nat.le_add_right ..
  have ph : Proper h' :=
    (((b.proper.leaves m.frame.leaves).modifyCoordinator (f := fun c => { c with started := [] })
      rfl).record (d := .drained drained) rfl (by rintro _ ⟨⟩) (by rintro _ ⟨⟩) (by rintro _ ⟨⟩)
      trivial).leaves o.frame.leaves
  have k : Keeps (OrUnder D h.shutdownDeadline) P [(t₁, .stopping), (g'.now, .drained drained)] h h' :=
    ((k₁.mono .inl).trans k₂).trans (k₃.mono .inl)
  refine ⟨⟨⟨g, g', t₁, g'.now, k₁, k₂, hK, k₃⟩, ph, ?_, ?_, ⟨?_, o.steady ?_⟩, ?_⟩, ?_, drained, ?_⟩
  · rw [o.frame.coordinator]
    exact (congrArg Coordinator.phase m.frame.coordinator).trans b.phase
  · rw [o.frame.coordinator]
    rfl
  · rw [o.frame.grows.registry hclosed]
    exact hclosed
  · exact m.steady.of_same rfl rfl
  · rw [o.now]
    exact hnow
  · refine u.poised p k (fun {t r} hj ho => b.start hj ?_) rfl rfl
    have hj₁ : g.job? t = some (.start r .coordinator) := k₁.grows.job? hj
    have hj₂ : g'.job? t = some (.start r .coordinator) := m.frame.grows.job? hj₁
    exact m.frame.leaves.start hj₁ (o.frame.leaves.start (r := r) hj₂ ho)
  · rw [k₃.doings]
    exact List.mem_append_right _ List.mem_cons_self

/-- With the closes over, no start of the coordinator runs. -/
theorem Poised.startsEnded {fs : Failures} (c : Poised ss g) (p : Proper g)
    (ht : TendedEach D P ss d g fs g') : g'.StartsEnded := by
  obtain ⟨l, -, m, hended⟩ := ht
  intro t r hj
  have hstart := p.books.started.1 (m.frame.job?_start hj)
  rcases c.others ⟨r, t⟩ (mem_startsOf.2 (Host.mem_doings.2 ⟨hstart, rfl⟩)) with hmem | he
  · exact hended _ hmem
  · exact m.frame.grows.isEnded he

end

/-! ## The end -/

theorem Host.foldl_trace {f : Host → Exit → Host} (hf : ∀ g e, ∃ trace, f g e = { g with trace })
    (es : List Exit) (h : Host) : ∃ trace, es.foldl f h = { h with trace } := by
  induction es generalizing h with
  | nil => exact ⟨h.trace, rfl⟩
  | cons e rest ih =>
    obtain ⟨trace, he⟩ := hf h e
    rw [List.foldl_cons, he]
    exact ih _

theorem reportExits_eq (h : Host) : ∃ trace, (reportExits h).2 = { h with exits := [], trace } := by
  refine Host.foldl_trace (fun g e => ?_) h.exits { h with exits := [] }
  split
  · exact ⟨g.trace, rfl⟩
  · exact ⟨g.trace, rfl⟩
  · exact ⟨_, rfl⟩

theorem leaves_reportExits (h : Host) : Leaves h (reportExits h).2 := by
  obtain ⟨trace, he⟩ := reportExits_eq h
  rw [he]
  exact .of_same rfl rfl (fun _ => rfl) rfl rfl rfl rfl rfl rfl

theorem spares_reportExits (h : Host) : Spares D P h (reportExits h).2 := by
  obtain ⟨trace, he⟩ := reportExits_eq h
  rw [he]
  exact .of_own (.of_same rfl rfl rfl rfl List.prefix_rfl) rfl rfl rfl fun hle hb =>
    Host.no_new_task rfl hle hb

theorem Keeps.endShutdown (h : Host) (failures : Failures) :
    Keeps D P [(h.now, .stopped failures)] h (endShutdown failures h) := by
  have hstop : Keeps D P [] h (h.enter .stopped) := .modifyCoordinator h rfl
  exact (hstop.trans (.emit _ _)).trans (.record ((h.enter .stopped).emit _) rfl)

theorem Proper.endShutdown (p : Proper h) (hp : h.coordinator.phase = .shuttingDown)
    (failures : Failures) : Proper (endShutdown failures h) := by
  have hd : (Lifecycle.endShutdown failures h).doings = h.doings ++ [.stopped failures] :=
    (Keeps.endShutdown (D := fun _ => False) (P := True) h failures).doings
  have hstopped : Books ((h.enter .stopped).emit
      (if failures.isEmpty then .shutdownDone else .shutdownFailed failures)) :=
    p.books.of_same rfl rfl rfl
  exact
    { books := hstopped.record rfl (by rintro _ ⟨⟩) (by rintro _ ⟨⟩) (by rintro _ ⟨⟩)
      orderly := by rw [hd]; exact p.orderly.concat trivial
      distinct := by simpa [hd, Deed.start?] using p.distinct
      stopping := fun _ => by rw [hd]; exact List.mem_append_left _ (p.stopping (.inl hp)) }

/-- As long as nothing is started, no start comes to run. -/
theorem Host.StartsEnded.keeps {l : List (Instant × Deed)} (he : h.StartsEnded) (p : Proper h)
    (p' : Proper h') (k : Keeps D P l h h') (hl : startsOf (l.map (·.2)) = []) : h'.StartsEnded := by
  intro t r hj
  have hstart : .start ⟨r, t⟩ ∈ h'.doings := Host.mem_doings.2 ⟨p'.books.started.1 hj, rfl⟩
  have hmem := mem_startsOf.2 hstart
  rw [k.doings, startsOf_append, hl, List.append_nil] at hmem
  have hold := (Host.mem_doings.1 (mem_startsOf.1 hmem)).1
  exact k.grows.isEnded (he t r (p.books.started.2 hold))

section
variable {K : Host → Failures → Host → Prop}

/-- The last steps: the exits are reported and the phase is entered in which nothing is left to do. -/
theorem Course.endShutdown {drained closed : Failures} {l : List (Instant × Deed)}
    (c : Course D P K h drained l g) (hended : g.StartsEnded)
    (v : Verdicts g h.shutdownDeadline h.coordinator.started closed l)
    (o : Others (Peers D P) (reportExits g).2 g')
    (o' : Others (Peers D P) (Lifecycle.endShutdown (drained ++ closed ++ (reportExits g).1) g') h') :
    ShutDown D P K h (drained ++ closed ++ (reportExits g).1) h' := by
  obtain ⟨trace, he⟩ := reportExits_eq g
  have m : Leaves g g' := (leaves_reportExits g).trans o.frame.leaves
  have s : Spares D P g g' := (spares_reportExits g).trans o.keeps.toSpares
  have hcoord : g'.coordinator = g.coordinator := by rw [o.frame.coordinator, he]
  have hconduct : g'.conduct = g.conduct := by rw [o.keeps.conduct, he, List.append_nil]; rfl
  have hnow : g'.now = g.now := by rw [o.now, he]
  generalize hfs : drained ++ closed ++ (reportExits g).1 = fs at o' ⊢
  have k : Keeps D P [(g'.now, .stopped fs)] g' h' := by
    simpa using (Keeps.endShutdown g' fs).trans o'.keeps
  have p' : Proper g' := c.proper.leaves m
  have p : Proper h' :=
    (p'.endShutdown (m.phase.trans c.phase) fs).leaves o'.frame.leaves
  have hphase : h'.coordinator.phase = .stopped := by rw [o'.frame.coordinator]; rfl
  have hclosed : h'.registry = g.registry := (s.trans k.toSpares).grows.registry c.settling.1
  have hended' : g'.StartsEnded := fun t r hj => by
    refine s.grows.isEnded (hended t r ?_)
    have hstart := p'.books.started.1 hj
    exact c.proper.books.started.2 (Host.mem_doings.1 (m.doings ▸ Host.mem_doings.2 ⟨hstart, rfl⟩)).1
  obtain ⟨g₁, g₂, t₁, t₂, k₁, k₂, -, k₃⟩ := c.stages
  exact
    { idle := p.idle (.inr hphase)
      now := by rw [o'.now]; exact hnow ▸ c.now
      phase := hphase
      started := by
        rw [o'.frame.coordinator]
        exact (congrArg Coordinator.started hcoord).trans c.started
      closed := by rw [hclosed]; exact c.settling.1
      ended := hended'.keeps p' p k rfl
      failure := by
        rw [k.failure, hcoord, k₃.failure, k₂.failure, k₁.failure]
      course := ⟨g, drained, closed, l, g'.now, c, v, hended, hfs.symm, s.trans k.toSpares, by
        rw [k.conduct, hconduct]⟩ }

/-- A shutdown keeps its deadline and, when it is the first, leaves everything closed. What is known of its
drain, `K`, is passed on. -/
theorem meets_shutdown (reason : StopReason) (i : Idle h) (hs : h.Steady P)
    (hK : ∀ g, Begun D P h g → (drain h.shutdownDeadline).Meets { rely := Peers D P } (K g) g) :
    (shutdown reason).Meets (downTerms D P h) (fun fs h' =>
      (¬ h.IsUp → fs = [] ∧ Keeps D P [] h h' ∧ Leaves h h') ∧
      (h.IsUp → ShutDown D P K h fs h')) h := by
  have hle : h.now ≤ h.shutdownDeadline := Nat.le_add_right ..
  refine meets_read.2 ⟨⟨i, hle⟩, trivial, ?_⟩
  intro h₁ o₁
  have i₁ : Idle h₁ := i.leaves o₁.frame.leaves
  have hle₁ : h₁.now ≤ h.shutdownDeadline := o₁.now.symm ▸ hle
  split
  · next hdown =>
    have hnot : ¬ h.IsUp := Host.not_isUp hdown
    refine meets_update.2 ⟨⟨i₁, hle₁⟩, trivial, ?_⟩
    intro h₂ o₂
    have k : Keeps D P [] h h₂ := by simpa using (o₁.keeps.trans (.emit h₁ _)).trans o₂.keeps
    have m : Leaves h h₂ := o₁.frame.leaves.trans ((Frame.emit (D := D) h₁ _).leaves.trans o₂.frame.leaves)
    refine ⟨⟨i.leaves m, ?_⟩, fun _ => ⟨rfl, k, m⟩, fun hup => absurd hup hnot⟩
    rw [o₂.now]
    exact hle₁
  · next hup =>
    have u : Upright [] h := i.upright (Host.isUp_of_not_down hup)
    refine meets_act.2 ⟨⟨i₁, hle₁⟩, trivial, ?_⟩
    intro h₂ o₂
    have b : Begun D P h h₂ := i.toProper.begin o₁ o₂
    have hd : (beginShutdown reason h₁).1 = h.shutdownDeadline := by
      show h₁.now + h₁.coordinator.config.shutdownTimeoutMs = _
      rw [o₁.now, o₁.frame.coordinator]
      rfl
    rw [hd]
    refine (b.meets_drain hs (hK h₂ b)).andThen ?_
    rintro dfs h₃ a₃ ⟨⟨m₃, hclosed⟩, hk⟩
    refine meets_act.2 ⟨a₃, trivial, ?_⟩
    intro h₄ o₄
    obtain ⟨c₄, ready, hdrained⟩ := b.takeStarted u i.toProper m₃ hclosed hk o₄
    have hss : (takeStarted dfs h₃).1 = h.coordinator.started := by
      show h₃.coordinator.started = _
      rw [m₃.frame.coordinator, b.started]
    rw [hss]
    have hclose := (meets_closeEach (D := D) (d := h.shutdownDeadline) c₄.settling
      ready.toClosable).weaken (k := downTerms D P h) id (fun _ _ => trivial) (fun ha => by
        have p := ready.tending c₄.proper hdrained ha
        obtain ⟨l, L, A, -, -, -, m⟩ := ha
        have c := c₄.closing m p
        exact ⟨c.idle, c.now⟩) id id fun _ hp => hp
    refine hclose.andThen ?_
    intro cfs h₅ a₅ ht
    have hended : h₅.StartsEnded := ready.startsEnded c₄.proper ht
    obtain ⟨l, v, m₅, -⟩ := ht
    have c₅ : Course D P K h dfs l h₅ := by
      simpa using c₄.closing m₅ a₅.1.toProper
    refine meets_act.2 ⟨a₅, trivial, ?_⟩
    intro h₆ o₆
    have m₆ : Leaves h₅ h₆ := (leaves_reportExits h₅).trans o₆.frame.leaves
    have hle₆ : h₆.now ≤ h.shutdownDeadline := by
      obtain ⟨_, he⟩ := reportExits_eq h₅
      rw [o₆.now, he]
      exact c₅.now
    refine meets_update.2 ⟨⟨c₅.idle.leaves m₆, hle₆⟩, trivial, ?_⟩
    intro h₇ o₇
    have c : ShutDown D P K h _ h₇ := c₅.endShutdown hended v o₆ o₇
    exact ⟨⟨c.idle, c.now⟩, fun hnot => absurd (Host.isUp_of_not_down hup) hnot, fun _ => c⟩

end

end ServiceHost.Lifecycle
