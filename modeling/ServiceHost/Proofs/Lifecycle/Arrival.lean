import ServiceHost.Proofs.Lifecycle.Report

/-! Resources that come up. A start that reports ready in time is in the coordinator's hands when the boot is over,
and its resource is closed by the shutdown that follows; only a start that a stop interrupts may have reported ready in
vain. -/

namespace ServiceHost.Lifecycle

open Relation Routine

variable {D : Instant → Prop} {P : Prop} {h h' g g' : Host} {r : ResourceId} {s : Started} {t : TaskId}
  {name : String}

/-! ## Others who are honest -/

/-- A move of the others in which no task that has ended reports. -/
def Honest (D : Instant → Prop) (P : Prop) (h h' : Host) : Prop :=
  Peers D P h h' ∧ ∀ t, h.isEnded t = true → h'.readiness t = h.readiness t

theorem Waits.ofHonest {signals : List Signal} (w : Waits (Honest D P) signals h h') :
    Waits (Peers D P) signals h h' :=
  Waits.mono And.left w

theorem Others.ofHonest (o : Others (Honest D P) h h') : Others (Peers D P) h h' := Others.mono And.left o

theorem Honest.ready (hn : h.isEnded t = false) : Honest D P h (h.reportReady t) := by
  refine ⟨⟨.ready h t, fun hs => hs.of_same rfl rfl⟩, fun u hu => ?_⟩
  rw [Host.readiness_reportReady, if_neg]
  rintro ⟨rfl, -⟩
  simp [hn] at hu

theorem Honest.fire (h : Host) (reason : StopReason) : Honest D P h (h.fire reason).2 :=
  ⟨⟨.fire h reason, fun hs => hs.of_same rfl rfl⟩, fun _ _ => rfl⟩

/-- The start on this task has not reported ready, and will not. -/
def Host.Lost (h : Host) (t : TaskId) : Prop :=
  (∃ e, h.readiness t = some (.error e)) ∨ h.isEnded t = true ∧ h.readiness t = none

theorem Host.Lost.not_ready (l : h.Lost t) : h.readiness t ≠ some (.ok ()) := by
  obtain ⟨e, he⟩ | ⟨-, hn⟩ := l
  · simp [he]
  · simp [hn]

theorem Host.Lost.waits {signals : List Signal} (l : h.Lost t) (w : Waits (Honest D P) signals h h') :
    h'.Lost t := by
  refine w.preserve (K := (·.Lost t)) (fun he l => ?_) (fun m l => ?_) l
  · obtain ⟨e, hr⟩ | ⟨hended, hn⟩ := l
    · exact .inl ⟨e, he.1.frame.grows.readiness hr⟩
    · exact .inr ⟨he.1.frame.grows.isEnded hended, (he.2 t hended).trans hn⟩
  · obtain ⟨_, -, -, rfl⟩ := m
    exact l

theorem Host.Lost.others (l : h.Lost t) (o : Others (Honest D P) h h') : h'.Lost t :=
  l.waits (Others.waits (s := []) o)

/-! ## One start -/

/-- Every start that was made is in the coordinator's hands. -/
def Host.AllHeld (h : Host) : Prop := startsOf h.doings = h.coordinator.started

/-- So is every start but the last, which is that of a resource with this name. -/
structure Underway (s : Started) (name : String) (h : Host) : Prop where
  starts : startsOf h.doings = h.coordinator.started ++ [s]
  name : h.resourceName s.resource = name

theorem Host.AllHeld.frame (a : h.AllHeld) (f : Frame D [] [] h h') : h'.AllHeld := by
  rw [AllHeld, f.doings, f.coordinator]
  exact a

theorem Underway.frame (u : Underway s name h) (f : Frame D [] [] h h') : Underway s name h' where
  starts := by rw [f.doings, f.coordinator]; exact u.starts
  name := (f.resourceName _).trans u.name

/-- A deed that starts nothing. -/
theorem Host.startsOf_record (h : Host) {d : Deed} (hd : d.isForeign = false) (hs : d.start? = none) :
    startsOf (h.record d).doings = startsOf h.doings := by
  simp [h.doings_record hd, hs]

/-- What becomes of a start: it is up, or it was interrupted, or it will never report ready. -/
def Tried (result : Except BootError Started) (h : Host) : Prop :=
  ∃ s name, Underway s name h ∧ match result with
    | .ok x => x = s
    | .error e => (∃ reason, e = .interrupted name reason) ∨ h.Lost s.task

theorem Host.AllHeld.launch (a : h.AllHeld) (r : ResourceId) :
    Underway ⟨r, h.tasks.length⟩ (h.resourceName r) (h.launch r .coordinator).2 where
  starts := by
    rw [h.startsOf_launch, a]
    rfl
  name := rfl

/-- The terms of a boot among honest others. -/
abbrev honestTerms (D : Instant → Prop) (P : Prop) : Terms := { rely := Honest D P }

theorem meets_judgeReport_tried {report : Option (Except ResourceError Unit)} (u : Underway s name h)
    (hreport : ∀ q, report = some q → h.readiness s.task = some q) (hnone : report = none → h.Lost s.task) :
    (judgeReport s.resource name s.task report).Meets (honestTerms D P) Tried h := by
  have hu : ∀ {o e h'}, Others (Honest D P) (recordStart o e h) h' → Underway s name h' := fun o =>
    Underway.frame (h := recordStart _ _ h) ⟨u.starts, u.name⟩ o.ofHonest.frame
  have hl : ∀ {o e h'}, Others (Honest D P) (recordStart o e h) h' → h.Lost s.task → h'.Lost s.task := fun o l =>
    Host.Lost.others (h := recordStart _ _ h) l o
  match report with
  | some (.ok ()) => exact meets_update.2 ⟨trivial, trivial, fun _ o => ⟨trivial, s, name, hu o, rfl⟩⟩
  | some (.error e) =>
    exact meets_update.2 ⟨trivial, trivial, fun _ o =>
      ⟨trivial, s, name, hu o, .inr (hl o (.inl ⟨e, hreport _ rfl⟩))⟩⟩
  | none =>
    exact meets_update.2 ⟨trivial, trivial, fun _ o => ⟨trivial, s, name, hu o, .inr (hl o (hnone rfl))⟩⟩

/-- A start is aborted because it was interrupted, or because it took too long. -/
theorem meets_giveUp_tried {o : StartOutcome} {ev : Event} {e : BootError} (u : Underway s name h)
    (he : (∃ reason, e = .interrupted name reason) ∨ (h.abort s.task).Lost s.task) :
    (do update fun g => recordStart o ev (g.abort s.task)
        return .error e : Routine (Except BootError Started)).Meets (honestTerms D P) Tried h := by
  refine meets_update.2 ⟨trivial, trivial, fun h' m => ⟨trivial, s, name, ?_, he.imp_right fun l => ?_⟩⟩
  · exact Underway.frame (h := recordStart o ev (h.abort s.task)) ⟨u.starts, u.name⟩ m.ofHonest.frame
  · exact Host.Lost.others (h := recordStart o ev (h.abort s.task)) l m

theorem meets_startResource_tried {ms : Nat} (a : h.AllHeld) :
    (startResource r .coordinator ms).Meets (honestTerms D P) Tried h := by
  refine meets_read.2 ⟨trivial, trivial, fun h₁ o₁ => ?_⟩
  refine meets_update.2 ⟨trivial, trivial, fun h₂ o₂ => ?_⟩
  have f₂ : Frame D [] [] h h₂ :=
    (o₁.ofHonest.frame.trans (Frame.emit (D := D) h₁ _)).trans o₂.ofHonest.frame
  have a₂ : h₂.AllHeld := a.frame f₂
  have hname : h₂.resourceName r = h.resourceName r := f₂.resourceName r
  refine meets_act.2 ⟨trivial, trivial, fun h₃ o₃ => ?_⟩
  rw [show (h₂.launch r .coordinator).1 = h₂.tasks.length from rfl]
  refine meets_read.2 ⟨trivial, trivial, fun h₄ o₄ => ?_⟩
  refine meets_waitAny.2 ⟨False.elim, fun h₅ w => ⟨trivial, fun i hi => ?_⟩⟩
  have f₅ : Frame D [] [] (h₂.launch r .coordinator).2 h₅ :=
    (o₃.ofHonest.frame.trans o₄.ofHonest.frame).trans w.ofHonest.frame
  have u₅ : Underway ⟨r, h₂.tasks.length⟩ (h.resourceName r) h₅ := hname ▸ (a₂.launch r).frame f₅
  rcases picks_start hi with ⟨rfl, hended⟩ | ⟨rfl, hnone, -⟩ | ⟨rfl, -⟩
  · refine meets_read.2 ⟨trivial, trivial, fun h₆ o₆ => ?_⟩
    refine meets_judgeReport_tried (s := ⟨r, h₂.tasks.length⟩) (u₅.frame o₆.ofHonest.frame)
      (fun q hq => o₆.ofHonest.frame.grows.readiness hq) fun hnone => ?_
    exact Host.Lost.others (.inr ⟨hended hnone, hnone⟩) o₆
  · have hj : h₅.job? h₂.tasks.length = some (.start r .coordinator) :=
      f₅.grows.job? ((h₂.job?_spawn _ _).trans (if_pos rfl))
    refine meets_giveUp_tried (s := ⟨r, h₂.tasks.length⟩) u₅ (.inr (.inr ⟨?_, ?_⟩))
    · exact Host.isEnded_finish_self hj
    · exact (h₅.readiness_finish ..).trans hnone
  · refine meets_read.2 ⟨trivial, trivial, fun h₆ o₆ => ?_⟩
    exact meets_giveUp_tried (s := ⟨r, h₂.tasks.length⟩) (u₅.frame o₆.ofHonest.frame) (.inl ⟨_, rfl⟩)

/-! ## The boot -/

/-- Where a boot leaves its starts: in the coordinator's hands, but perhaps for the last, which was interrupted or will
never report ready. -/
def Gathered (result : Except BootError Unit) (h : Host) : Prop :=
  h.AllHeld ∨ ∃ s name e, result = .error e ∧ Underway s name h ∧
    ((∃ reason, e = .interrupted name reason) ∨ h.Lost s.task)

theorem meets_startNext_tried (a : h.AllHeld) :
    (startNext r).Meets (honestTerms D P)
      (fun result g => Tried result g ∨ (∃ e, result = .error e) ∧ g.AllHeld) h := by
  refine meets_read.2 ⟨trivial, trivial, fun h₁ o₁ => ?_⟩
  have a₁ : h₁.AllHeld := a.frame o₁.ofHonest.frame
  split
  · exact meets_read.2 ⟨trivial, trivial, fun h₂ o₂ =>
      ⟨trivial, .inr ⟨⟨_, rfl⟩, a₁.frame o₂.ofHonest.frame⟩⟩⟩
  · refine meets_read.2 ⟨trivial, trivial, fun h₂ o₂ => ?_⟩
    exact (meets_startResource_tried (a₁.frame o₂.ofHonest.frame)).mono fun _ _ _ => .inl

theorem meets_startEach_gathered {rs : List ResourceId} (a : h.AllHeld) :
    (startEach rs).Meets (honestTerms D P) Gathered h := by
  induction rs generalizing h with
  | nil => exact ⟨trivial, .inl a⟩
  | cons r rest ih =>
    refine (meets_startNext_tried a).andThen fun result h₁ _ hq => ?_
    cases result with
    | ok x =>
      refine meets_update.2 ⟨trivial, trivial, fun h₂ o₂ => ih ?_⟩
      obtain ⟨s, name, u, rfl⟩ := hq.resolve_right (by simp)
      refine Host.AllHeld.frame ?_ o₂.ofHonest.frame
      exact (Host.startsOf_record _ rfl rfl).trans u.starts
    | error e =>
      refine meets_update.2 ⟨trivial, trivial, fun h₂ o₂ => ⟨trivial, ?_⟩⟩
      have hst := Host.startsOf_record ((h₁.emit (.bootAborted e rest.length)).modifyCoordinator fun c =>
        { c with bootFailure := some e.resource }) (d := .booted (.error e)) rfl rfl
      obtain ⟨s, name, u, he⟩ | ⟨-, a₁⟩ := hq
      · refine .inr ⟨s, name, e, rfl, Underway.frame ?_ o₂.ofHonest.frame, he.imp_right fun l => ?_⟩
        · exact ⟨hst.trans u.starts, u.name⟩
        · refine Host.Lost.others ?_ o₂
          exact l
      · refine .inl (Host.AllHeld.frame ?_ o₂.ofHonest.frame)
        exact hst.trans a₁

/-- A boot that is not the first starts nothing, and the first gathers what it starts. -/
theorem meets_startAll_gathered (i : Idle h) :
    startAll.Meets (honestTerms D P) (fun result g => g.doings = h.doings ∨
      h.coordinator.phase = .notStarted ∧ h.coordinator.bootFailure = none ∧ Gathered result g) h := by
  refine meets_read.2 ⟨trivial, trivial, fun h₁ o₁ => ?_⟩
  have f₁ := o₁.ofHonest.frame
  split
  · exact ⟨trivial, .inl f₁.doings⟩
  · next hboot =>
    refine meets_read.2 ⟨trivial, trivial, fun h₂ o₂ => ?_⟩
    have f₂ := f₁.trans o₂.ofHonest.frame
    split
    · refine meets_update.2 ⟨trivial, trivial, fun h₃ o₃ => ⟨trivial, .inl ?_⟩⟩
      exact ((f₂.trans (Frame.emit h₂ _)).trans o₃.ofHonest.frame).doings
    · next hphase =>
      have m₂ : Leaves h h₂ := f₂.leaves
      refine meets_update.2 ⟨trivial, trivial, fun h₃ o₃ => ?_⟩
      have m₃ : Leaves h h₃ := (m₂.trans (leaves_listen h₂)).trans o₃.ofHonest.frame.leaves
      have hnew : h.coordinator.phase = .notStarted := by
        rw [← o₁.ofHonest.frame.coordinator]
        exact Decidable.not_not.1 hphase
      have b₃ : Booting [] h₃.coordinator.pending (takePending h₃).2 :=
        (i.leaves m₃).takePending (m₃.phase.trans hnew) (m₃.bootFailure.trans hboot)
      have a₃ : (takePending h₃).2.AllHeld := b₃.all.symm.trans (List.append_nil _)
      refine meets_act.2 ⟨trivial, trivial, fun h₄ o₄ => ?_⟩
      refine meets_update.2 ⟨trivial, trivial, fun h₅ o₅ => ?_⟩
      have f₅ := (o₄.ofHonest.frame.trans (Frame.emit h₄ _)).trans o₅.ofHonest.frame
      refine (meets_startEach_gathered (a₃.frame f₅)).andThen fun result h₆ _ hq => ?_
      cases result with
      | error e => exact ⟨trivial, .inr ⟨hnew, hboot, hq⟩⟩
      | ok u =>
        refine meets_update.2 ⟨trivial, trivial, fun h₇ o₇ => ⟨trivial, .inr ⟨hnew, hboot, .inl ?_⟩⟩⟩
        have a₆ : h₆.AllHeld := hq.resolve_right (by simp)
        refine Host.AllHeld.frame ?_ o₇.ofHonest.frame
        exact (Host.startsOf_record _ rfl rfl).trans a₆

/-! ## The shutdown that follows -/

/-- Since `h` nothing was called but, perhaps, the wait for a reason to stop. -/
def Follows (D : Instant → Prop) (h h' : Host) : Prop :=
  Passes D False h h' ∨ ∃ reason, Run (Peers D False) awaitStop h (.returned reason) h'

theorem Follows.kept (i : Idle h) (ht : h.Tame) (hup : h.IsUp) (f : Follows D h h') :
    Idle h' ∧ h'.Tame ∧ h'.IsUp ∧ h'.coordinator.started = h.coordinator.started := by
  have hs : h.Steady False := .inr ht
  obtain w | ⟨reason, hr⟩ := f
  · have hc := w.frame.coordinator
    exact ⟨i.leaves w.frame.leaves, (w.steady hs).resolve_left id, by rwa [Host.IsUp, hc], by rw [hc]⟩
  · obtain ⟨i', w⟩ := ((meets_awaitStop i).of_run hr).2.1 _ rfl
    exact ⟨i', (w.spares.steady hs).resolve_left id, w.isUp hup, w.started⟩

/-- In this shutdown the resource is closed, unless its turn comes after the deadline. -/
def ClosesInTurn (D : Instant → Prop) (reason : StopReason) (s : Started) (h : Host) : Prop :=
  (shutdown reason).Returns (Peers D False) (fun _ => True) h fun fs h' => ∃ drained turns queue,
    Reported D False (fun _ _ _ => True) h drained turns queue fs h' ∧
      (.close s ∈ h'.doings ∨ ∃ x ∈ turns, x.started = s ∧ h.shutdownDeadline ≤ x.before.now)

theorem Idle.closesInTurn {reason : StopReason} (i : Idle h) (ht : h.Tame) (hup : h.IsUp)
    (hs : s ∈ h.coordinator.started) : ClosesInTurn D reason s h := by
  have hsteady : h.Steady False := .inr ht
  refine (meets_shutdown_reported (K := fun _ _ _ => True) reason hup hsteady (i.closable hup)
    fun g k => meets_drain (k.steady hsteady)).mono ?_
  rintro fs h' - ⟨drained, turns, queue, c⟩
  exact ⟨drained, turns, queue, c, c.close_or_late hs⟩

/-- A report and a trigger come together, and the trigger is looked at first: the start is interrupted although it was
ready, and its resource is never closed. -/
theorem ready_resource_left_unclosed : ∃ h g k : Host, ∃ fs, Reached (Move anyone) h ∧ h.Tame ∧
    Run (Honest nobody False) startAll h (.returned (.error (.interrupted "s" .requested))) g ∧
    .start ⟨0, 0⟩ ∈ g.doings ∧ g.readiness 0 = some (.ok ()) ∧ g.coordinator.started = [] ∧
    Run (Peers nobody False) (shutdown .requested) g (.returned fs) k ∧ k.now < g.shutdownDeadline ∧
    closesOf k.doings = [] := by
  have hfresh : Reached (Move anyone)
      { coordinator := { config := { handleSignals := false } }, resources := [.scripted "s" {}] } :=
    .fresh _ ⟨rfl, rfl, rfl, rfl, rfl⟩
  have hadded := hfresh.called _ (.add 0) _ (.step .refl (.done _ _))
  refine ⟨_, ?_, ?_, ?_, hadded, ?_, ?boot, ?_, ?_, ?_, ?shutdown, ?_, ?_⟩
  case boot =>
    iterate 11 apply Run.step .refl
    apply Run.wait (i := 2) (.head (.inl (.ready (t := 0) rfl)) (.single (.inl (.fire _ .requested))))
      ⟨.triggered, rfl, rfl, fun _ => nofun⟩
    iterate 3 apply Run.step .refl
    exact .done _ _
  case shutdown =>
    iterate 8 apply Run.step .refl
    exact .done _ _
  · exact Host.tame_of_one rfl rfl nofun
  · exact mem_startsOf.1 (List.mem_singleton.2 rfl)
  · rfl
  · rfl
  · decide
  · rfl

/-- However triggers and reports are interleaved with a boot, a resource that it started and that reported ready before
its start was given up is in the coordinator's hands afterwards, unless its start was the one that a stop interrupted,
and the shutdown that follows closes it, unless its turn comes after the deadline. -/
theorem ready_resource_is_closed (hr : Reached (Move anyone) h) (ht : h.Tame) (D : Instant → Prop) :
    startAll.Returns (Honest D False) (fun _ => True) h (fun result g => ∀ s, .start s ∈ g.doings →
      .start s ∉ h.doings → g.readiness s.task = some (.ok ()) →
      (∃ reason, result = .error (.interrupted (g.resourceName s.resource) reason) ∧
        startsOf g.doings = g.coordinator.started ++ [s]) ∨
      s ∈ g.coordinator.started ∧ ∀ g' reason, Follows D g g' → ClosesInTurn D reason s g') := by
  have i : Idle h := hr.idle
  have mboot := (meets_startAll_booted (D := D) (P := False) i).weaken
    (k := { bootTerms D False with rely := Honest D False }) And.left (fun _ => id) id id id fun _ => id
  refine ((mboot.and (meets_startAll_gathered (D := D) (P := False) i) id).mono ?_).weaken id
    (fun _ _ => trivial) (fun _ => trivial) id (fun hl => hl.1) fun _ hp => hp.1
  rintro result g - ⟨b, hg⟩ s hs hnew hready
  obtain hsame | ⟨hphase, hboot, hg⟩ := hg
  · exact absurd (hsame ▸ hs) hnew
  have hup : g.IsUp := by
    have hp := (b.first hphase hboot).phase
    split at hp
    · exact .inr hp
    · exact .inl hp
  have htame : g.Tame := (b.boots.spares.steady (.inr ht)).resolve_left id
  have hclosed : s ∈ g.coordinator.started → ∀ g' reason, Follows D g g' → ClosesInTurn D reason s g' := by
    intro hheld g' reason f
    obtain ⟨i', ht', hup', hstarted⟩ := f.kept b.idle htame hup
    exact i'.closesInTurn ht' hup' (hstarted ▸ hheld)
  have hmem : s ∈ startsOf g.doings := mem_startsOf.2 hs
  obtain hall | ⟨x, name, e, rfl, u, hend⟩ := hg
  · have hheld : s ∈ g.coordinator.started := hall ▸ hmem
    exact .inr ⟨hheld, hclosed hheld⟩
  · rw [u.starts] at hmem
    rcases List.mem_append.1 hmem with hheld | hlast
    · exact .inr ⟨hheld, hclosed hheld⟩
    · cases List.mem_singleton.1 hlast
      obtain ⟨reason, rfl⟩ | hlost := hend
      · exact .inl ⟨reason, by rw [u.name], u.starts⟩
      · exact absurd hready hlost.not_ready

/-- A resource that reports ready in its boot is closed. -/
theorem ready_resource_is_closed_after_boot : ∃ h g k : Host, ∃ fs drained turns queue, Reached (Move anyone) h ∧
    h.Tame ∧ Run (Honest nobody False) startAll h (.returned (.ok ())) g ∧
    .start ⟨0, 0⟩ ∈ g.doings ∧ .start ⟨0, 0⟩ ∉ h.doings ∧ g.readiness 0 = some (.ok ()) ∧
    ⟨0, 0⟩ ∈ g.coordinator.started ∧ Follows nobody g g ∧
    Run (Peers nobody False) (shutdown .requested) g (.returned fs) k ∧
    Reported nobody False (fun _ _ _ => True) g drained turns queue fs k ∧
    (.close ⟨0, 0⟩ ∈ k.doings ∨ ∃ x ∈ turns, x.started = ⟨0, 0⟩ ∧ g.shutdownDeadline ≤ x.before.now) := by
  obtain ⟨h, g, hr, ht, hboot, hstart, hnew, hready⟩ : ∃ h g : Host, Reached (Move anyone) h ∧ h.Tame ∧
      Run (Honest nobody False) startAll h (.returned (.ok ())) g ∧
      .start ⟨0, 0⟩ ∈ g.doings ∧ .start ⟨0, 0⟩ ∉ h.doings ∧ g.readiness 0 = some (.ok ()) := by
    have hfresh : Reached (Move anyone)
        { coordinator := { config := { handleSignals := false } }, resources := [.scripted "s" {}] } :=
      .fresh _ ⟨rfl, rfl, rfl, rfl, rfl⟩
    have hadded := hfresh.called _ (.add 0) _ (.step .refl (.done _ _))
    refine ⟨_, ?_, hadded, ?_, ?boot, ?_, fun hm => List.not_mem_nil (mem_startsOf.2 hm), ?_⟩
    case boot =>
      iterate 11 apply Run.step .refl
      apply Run.wait (i := 0) (.single (.inl (.ready (t := 0) rfl))) ⟨_, rfl, rfl, fun _ => nofun⟩
      iterate 4 apply Run.step .refl
      exact .done _ _
    · exact Host.tame_of_one rfl rfl nofun
    · exact mem_startsOf.1 (List.mem_singleton.2 rfl)
    · rfl
  have hkept := ((ready_resource_is_closed hr ht nobody).of_run hboot).2.1 _ rfl _ hstart hnew hready
  obtain ⟨hheld, hcloses⟩ := hkept.resolve_left (by simp)
  obtain ⟨fs, k, hrun, drained, turns, queue, hreported, hclosed⟩ :=
    (hcloses g .requested (.inl .refl)).exists_run trivial (fun _ => id) False.elim
  exact ⟨h, g, k, fs, drained, turns, queue, hr, ht, hboot, hstart, hnew, hready, hheld, .inl .refl, hrun,
    hreported, hclosed⟩

end ServiceHost.Lifecycle
