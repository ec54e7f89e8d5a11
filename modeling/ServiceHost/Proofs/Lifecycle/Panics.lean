import ServiceHost.Proofs.Lifecycle.Report

/-! Panics in a shutdown. An action runs on a task of its own, so what it panics with is its failure and nobody else's.
The call that hands out its future is another matter: the drain makes it itself, and a panic in it takes down the
drain, and the shutdown with it, unless the deadline passes before its turn. -/

namespace ServiceHost.Lifecycle

open Relation Routine

variable {D : Instant → Prop} {h h' g : Host} {d : Instant} {turns : List Turn} {fs : Failures}

/-- A drain in which a panic is the failure of the action that panicked, and, if the deadline has not passed, every
action ran to its end. -/
structure Weathered (d : Instant) (turns : List Turn) (h : Host) (fs : Failures) (h' : Host) : Prop extends
    Drained d turns h fs h' where
  panicked : ∀ x ∈ turns, ∀ t p, x.task? = some t → h'.outcome? t = some (.panicked p) →
    x = .failed x.action t (Cause.ofPanic t p)
  completed : h'.now < d → ∀ x ∈ turns, x.isCompleted = true

theorem Host.Ran.outcome? {a : Action} {t : TaskId} {o : Outcome} {e : Instant} (r : h.Ran a t d o e) :
    h.outcome? t = some o := by
  obtain ⟨b, hb, -, -, he⟩ := r
  simp [Host.outcome?, hb, Task.outcome?, he]

/-- The turn of an action whose task panicked. -/
theorem Turn.Holds.panicked {x : Turn} {t : TaskId} {p : Payload} (hx : x.Holds h d) (ht : x.task? = some t)
    (ho : h.outcome? t = some (.panicked p)) : x = .failed x.action t (Cause.ofPanic t p) := by
  cases x with
  | skipped a => cases ht
  | done a u =>
    cases ht
    obtain ⟨e, hr⟩ := hx
    rw [hr.outcome?] at ho
    cases ho
  | cut a u =>
    cases ht
    rw [Host.Ran.outcome? hx] at ho
    cases ho
  | failed a u cause =>
    cases ht
    obtain ⟨e, hr | ⟨q, rfl, hr⟩⟩ := hx
    · rw [hr.outcome?] at ho
      cases ho
    · rw [hr.outcome?] at ho
      cases ho
      rfl

theorem Drained.weathered (r : Drained d turns h fs h') (hlate : DueIfLate d fs h') :
    Weathered d turns h fs h' where
  toDrained := r
  panicked x hx _ _ ht ho := (r.holds x hx).panicked ht ho
  completed hlt x hx := by
    have hin : ∀ e ∈ x.failures, e ∈ fs := fun e he => by
      rw [r.failures]
      exact List.mem_flatMap.2 ⟨x, hx, he⟩
    cases x with
    | done a t => rfl
    | failed a t cause => rfl
    | cut a t => exact absurd (hlate _ (hin _ List.mem_cons_self) rfl) (Nat.not_le.2 hlt)
    | skipped a => exact absurd (hlate _ (hin _ List.mem_cons_self) rfl) (Nat.not_le.2 hlt)

/-- A drain gets through every action, whatever panics on a task, or the call of one takes it down. -/
theorem meets_drain_weathered_or_torn (hopen : h.registry.closed = false) :
    (drain d).Meets (tornTerms h (TornDown d h)) (fun fs h' => ∃ turns, Weathered d turns h fs h') h := by
  have hlate : (drain d).Meets (clockTerms (Move nobody)) (DueIfLate d) h := meets_drain_late Move.now
  refine (((meets_drain_tearing (.refl h) hopen).and hlate id).mono ?_).weaken id
    (fun _ _ => trivial) (fun ha => ha.1) id (fun hl => hl.1) fun _ hp => hp.1
  rintro fs h' - ⟨⟨-, turns, r⟩, hl⟩
  exact ⟨turns, r.weathered hl⟩

theorem meets_drain_weathered (hopen : h.registry.closed = false)
    (hcalls : ∀ a ∈ h.registry.actions, a.callPanics = none) :
    (drain d).Returns (Move nobody) (OneAtATime h) h
      (fun fs h' => ∃ turns, Weathered d turns h fs h') :=
  (meets_drain_weathered_or_torn hopen).weaken id (fun _ => id) id id id fun _ r => by
    obtain ⟨a, ha, hp⟩ := r.torn.isSome_callPanics
    simp [hcalls a ha] at hp

/-- The drain of a shutdown, if nobody else drains. -/
theorem Spares.meets_drain_weathered (s : Spares D False h g) (hopen : h.registry.closed = false)
    (ht : h.Tame) : (drain d).Meets { rely := Peers D False }
      (fun fs g' => (∀ e, ¬ D e) → ∃ turns, Weathered d turns g fs g') g := by
  have htame : g.Tame := (s.steady (.inr ht)).resolve_left id
  by_cases hD : ∀ e, ¬ D e
  · have hdrain := Lifecycle.meets_drain_weathered (d := d) ((s.undrained hD).trans hopen) htame.actions
    exact (hdrain.mono fun _ _ _ hq _ => hq).weaken (fun m => m.1.mono fun hd => (hD _ hd).elim)
      (fun _ _ => trivial) (fun _ => trivial) False.elim (fun _ => trivial) fun _ => False.elim
  · exact (meets_drain (.inr htame)).mono fun _ _ _ _ hn => absurd hn hD

/-! ## A drain that is taken down -/

/-- Actions among which the call of one panics are not all run: whoever runs them gets as far as their deadline, if they
return at all. -/
theorem meets_runActions_torn {E : Host → Host → Prop} (hE : ∀ {a b}, E a b → b.now = a.now) {as : List Action}
    (hpanics : ∃ a ∈ as, a.callPanics.isSome = true) :
    (runActions d as).Meets (clockTerms E) (fun _ h' => d ≤ h'.now) h := by
  induction as generalizing h with
  | nil => simp at hpanics
  | cons a rest ih =>
    refine meets_read.2 ⟨trivial, Nat.le_refl _, fun h₁ o₁ => ?_⟩
    split
    · next hexpired =>
      have hd : d ≤ h₁.now := Others.due hE o₁ (of_decide_eq_true hexpired)
      exact (Meets.onward hE (meets_skipActions_late hE (a :: rest) hd)).mono fun _ _ _ hq =>
        Nat.le_trans hd hq.2
    · cases hcall : a.callPanics with
      | some p =>
        simp only [runAction, hcall]
        exact ⟨trivial, trivial⟩
      | none =>
        have hrest : ∃ b ∈ rest, b.callPanics.isSome = true := by simpa [hcall] using hpanics
        refine (meets_runAction_late hE a).andThen fun _ h₂ _ _ => ?_
        exact (ih hrest).andThen fun _ h₃ _ hd => ⟨trivial, hd⟩

/-- Such a drain does not come to its end before its deadline. -/
theorem meets_drain_torn {E : Host → Host → Prop} (hE : ∀ {a b}, E a b → b.now = a.now)
    (hopen : h.registry.closed = false) (hpanics : ∃ a ∈ h.registry.actions, a.callPanics.isSome = true) :
    (drain d).Meets (clockTerms E) (fun _ h' => d ≤ h'.now) h := by
  refine meets_act.2 ?_
  rw [Host.closeRegistry_of_open hopen]
  refine ⟨trivial, Nat.le_refl _, fun h₁ _ => ?_⟩
  refine meets_update.2 ⟨trivial, Nat.le_refl _, fun h₂ _ => ?_⟩
  refine (meets_runActions_torn hE hpanics).andThen fun _ h₃ _ hd => ?_
  exact meets_update.2 ⟨trivial, Nat.le_refl _, fun h₄ o₄ => ⟨trivial, Others.due hE o₄ hd⟩⟩

theorem meets_drain_taken_down (hopen : h.registry.closed = false)
    (hpanics : ∃ a ∈ h.registry.actions, a.callPanics.isSome = true) :
    (drain d).Meets (tornTerms h (TornDown d h))
      (fun fs h' => (∃ turns, Weathered d turns h fs h') ∧ d ≤ h'.now) h :=
  ((meets_drain_weathered_or_torn hopen).and (meets_drain_torn Move.now hopen hpanics) id).weaken id
    (fun _ _ => trivial) (fun ha => ha.1) id (fun hl => hl.1) fun _ hp => hp.1

/-! ## A shutdown that is taken down -/

/-- The registry is open, and the call of one of its actions will panic. -/
def Host.Mined (h : Host) : Prop :=
  h.registry.closed = false ∧ ∃ a ∈ h.registry.actions, a.callPanics.isSome = true

/-- An action stays registered until someone drains. -/
theorem Move.mined (m : Move nobody h h') (hm : h.Mined) : h'.Mined := by
  refine ⟨(m.quiet fun _ => id).1.trans hm.1, ?_⟩
  obtain ⟨hopen, a, ha, hp⟩ := hm
  cases m with
  | register b =>
    rw [Host.register_of_open hopen]
    exact ⟨a, List.mem_append_left _ ha, hp⟩
  | comeBack result _ _ => rw [Host.settle_only]; exact ⟨a, ha, hp⟩
  | closeRegistry hd => exact hd.elim
  | _ => exact ⟨a, ha, hp⟩

/-- A shutdown that began in `h` was taken down in its drain: it had begun and did nothing since, so that nothing is
closed, what was to be closed is still held, and it is not over. -/
structure Stuck (h h' : Host) : Prop where
  drain : ∃ g, TornDown h.shutdownDeadline g h'
  phase : h'.coordinator.phase = .shuttingDown
  started : h'.coordinator.started = h.coordinator.started
  conduct : ∃ t, h'.conduct = h.conduct ++ [(t, .stopping)]

theorem Begun.stuck (b : Begun nobody True h g) (m : Draining nobody True h.shutdownDeadline g h')
    (r : TornDown h.shutdownDeadline g h') : Stuck h h' where
  drain := ⟨g, r⟩
  phase := by rw [m.frame.coordinator, b.phase]
  started := by rw [m.frame.coordinator, b.started]
  conduct := by
    obtain ⟨t, k⟩ := b.keeps
    exact ⟨t, by rw [m.frame.conduct, List.append_nil, k.conduct]⟩

/-- The terms of a shutdown of which nothing is known but where it panics, if nobody else drains. -/
abbrev stuckTerms (stuck : Host → Prop) : Terms :=
  { rely := Move nobody, timely := True, loops := False, panics := stuck }

theorem Begun.meets_drain_stuck (b : Begun nobody True h g) (hm : g.Mined) :
    (drain h.shutdownDeadline).Meets (stuckTerms (Stuck h)) (fun _ g' => h.shutdownDeadline ≤ g'.now) g := by
  have hframe := meets_drain_inTime (D := nobody) (P := True) (d := h.shutdownDeadline) (h := g) (.inl trivial)
  refine (((meets_drain_taken_down hm.1 hm.2).and hframe fun m => ⟨m, fun _ => .inl trivial⟩).mono
    fun _ _ _ hq => hq.1.2).weaken id (fun _ _ => trivial) (fun _ => trivial) id (fun hl => hl.1) ?_
  exact fun ha hp => b.stuck ha.2 hp.1

/-- Past the deadline no resource is closed, so no close can panic. -/
theorem meets_closeEach_expired (ss : List Started) (hd : d ≤ h.now) :
    (closeEach d ss).Meets (stuckTerms fun _ => False) (fun _ h' => d ≤ h'.now) h := by
  induction ss generalizing h with
  | nil => exact ⟨trivial, hd⟩
  | cons s rest ih =>
    refine Meets.andThen (R := fun _ h' => d ≤ h'.now) ?_ fun _ h₃ _ hd₃ => ?_
    · refine meets_read.2 ⟨trivial, trivial, fun h₁ o₁ => ?_⟩
      refine meets_read.2 ⟨trivial, trivial, fun h₂ o₂ => ?_⟩
      have hd₁ : d ≤ h₁.now := Others.due Move.now o₁ hd
      have hd₂ : d ≤ h₂.now := Others.due Move.now o₂ hd₁
      have hexpired : h₁.isExpired d = true := decide_eq_true hd₁
      rw [if_pos hexpired]
      exact meets_update.2 ⟨trivial, trivial, fun h₃ o₃ => ⟨trivial, Others.due Move.now o₃ hd₂⟩⟩
    · refine meets_update.2 ⟨trivial, trivial, fun h₄ o₄ => ?_⟩
      exact (ih (Others.due Move.now o₄ hd₃)).andThen fun _ h₅ _ hd₅ => ⟨trivial, hd₅⟩

/-- While the call of an action panics and nobody else drains, no shutdown comes to its end before its deadline. -/
theorem meets_shutdown_stuck (reason : StopReason) (i : Idle h) (hup : h.IsUp) (hm : h.Mined) :
    (shutdown reason).Meets (stuckTerms (Stuck h)) (fun _ h' => h.shutdownDeadline ≤ h'.now) h := by
  refine meets_read.2 ⟨trivial, trivial, fun h₁ o₁ => ?_⟩
  rw [if_neg fun hdown => Host.not_isUp hdown hup]
  refine meets_act.2 ⟨trivial, trivial, fun g o₂ => ?_⟩
  have b : Begun nobody True h g := i.toProper.begin o₁.peers o₂.peers
  have hm₁ : h₁.Mined := o₁.preserve Move.mined hm
  have hmg : g.Mined := o₂.preserve Move.mined (show (beginShutdown reason h₁).2.Mined from hm₁)
  have hd : (beginShutdown reason h₁).1 = h.shutdownDeadline := by
    show h₁.now + h₁.coordinator.config.shutdownTimeoutMs = _
    rw [o₁.peers.now, o₁.peers.frame.coordinator]
    rfl
  rw [hd]
  refine (b.meets_drain_stuck hmg).andThen fun fs h₂ _ hd₂ => ?_
  refine meets_act.2 ⟨trivial, trivial, fun h₃ o₃ => ?_⟩
  have hclose := (meets_closeEach_expired (takeStarted fs h₂).1 (Others.due Move.now o₃ hd₂)).weaken
    (k := stuckTerms (Stuck h)) id (fun _ => id) id id id fun _ => False.elim
  refine hclose.andThen fun _ h₄ _ hd₄ => ?_
  refine meets_act.2 ⟨trivial, trivial, fun h₅ o₅ => ?_⟩
  obtain ⟨trace, he⟩ := reportExits_eq h₄
  have hd₅ : h.shutdownDeadline ≤ h₅.now := Others.due Move.now o₅ (by rw [he]; exact hd₄)
  exact meets_update.2 ⟨trivial, trivial, fun h₆ o₆ => ⟨trivial, Others.due Move.now o₆ hd₅⟩⟩

/-! ## Where panics go -/

/-- An action that panics on its task is reported as failed in its place, the actions after it still run, and a shutdown
goes on to close the started resources and comes to its end. Where the call of an action panics, neither the drain nor
the shutdown gets past it before the deadline: those before it have had their turns, and nothing else is done. -/
theorem panics_stay_with_their_actions (h : Host) (d : Instant) (hopen : h.registry.closed = false) :
    ((∀ a ∈ h.registry.actions, a.callPanics = none) →
      (drain d).Returns (Move nobody) (OneAtATime h) h (fun fs h' => ∃ turns, Weathered d turns h fs h') ∧
      ∀ D reason, Reached (Move anyone) h → h.Tame → h.IsUp →
        (shutdown reason).Returns (Peers D False) (fun _ => True) h (fun fs h' =>
          (∃ drained turns queue, Reported D False
            (fun g fs g' => (∀ e, ¬ D e) → ∃ turns, Weathered h.shutdownDeadline turns g fs g')
            h drained turns queue fs h') ∧
          h'.coordinator.phase = .stopped ∧
          (h'.now < h.shutdownDeadline → ∀ s ∈ h.coordinator.started, .close s ∈ h'.doings))) ∧
    ((∃ a ∈ h.registry.actions, a.callPanics.isSome = true) →
      (drain d).Meets (tornTerms h (TornDown d h))
        (fun fs h' => (∃ turns, Weathered d turns h fs h') ∧ d ≤ h'.now) h ∧
      ∀ reason, Reached (Move anyone) h → h.IsUp →
        (shutdown reason).Meets (stuckTerms (Stuck h)) (fun _ h' => h.shutdownDeadline ≤ h'.now) h) := by
  constructor
  · intro hcalls
    refine ⟨meets_drain_weathered hopen hcalls, fun D reason hr ht hup => ?_⟩
    have m := meets_shutdown_reported (D := D) (P := False) reason hup (.inr ht) (hr.idle.closable hup)
      fun g s => s.meets_drain_weathered hopen ht
    refine m.mono ?_
    rintro fs h' - ⟨drained, turns, queue, c⟩
    exact ⟨⟨drained, turns, queue, c⟩, c.phase, c.closes⟩
  · intro hpanics
    exact ⟨meets_drain_taken_down hopen hpanics, fun reason hr hup =>
      meets_shutdown_stuck reason hr.idle hup ⟨hopen, hpanics⟩⟩

/-- Of two actions the first panics on its task and the second runs. If the call of the first panics, the drain is taken
down, and so is a shutdown with it. -/
theorem panic_between_two_actions :
    (∃ h : Host, h.registry.closed = false ∧ (∀ a ∈ h.registry.actions, a.callPanics = none) ∧
      Reached (Move anyone) h ∧ h.Tame ∧ h.IsUp ∧
      (∃ h' turns, Run (Move nobody) (drain 100) h
          (.returned [.failed "x" (Cause.ofPanic 0 (.text "boom"))]) h' ∧
        h'.metrics.actions = [.failed, .ok] ∧
        Weathered 100 turns h [.failed "x" (Cause.ofPanic 0 (.text "boom"))] h') ∧
      ∃ fs h', Run (Peers nobody False) (shutdown .requested) h (.returned fs) h' ∧
        (∃ drained turns queue, Reported nobody False
          (fun g fs g' => (∀ e, ¬ nobody e) → ∃ turns, Weathered h.shutdownDeadline turns g fs g')
          h drained turns queue fs h') ∧
        h'.coordinator.phase = .stopped ∧
        (h'.now < h.shutdownDeadline → ∀ s ∈ h.coordinator.started, .close s ∈ h'.doings)) ∧
    ∃ h : Host, h.registry.closed = false ∧ (∃ a ∈ h.registry.actions, a.callPanics.isSome = true) ∧
      Reached (Move anyone) h ∧ h.IsUp ∧
      (∃ h', Run (Move nobody) (drain 100) h (.panicked (.text "boom")) h' ∧ TornDown 100 h h') ∧
      ∃ h', Run (Move nobody) (shutdown .requested) h (.panicked (.text "boom")) h' ∧ Stuck h h' := by
  have hfresh : Reached (Move anyone) { coordinator := { config := {} } } := .fresh _ ⟨rfl, rfl, rfl, rfl, rfl⟩
  constructor
  · have hfirst := hfresh.passed _ _ (.single (.inl (.register _ ⟨"x", [.panic (.text "boom")], none⟩)))
    have hsecond := hfirst.passed _ _ (.single (.inl (.register _ ⟨"y", [.note "ran"], none⟩)))
    obtain ⟨h, hr, hopen, hcalls, ht, hup, h', hrun, hcounted⟩ : ∃ h : Host, Reached (Move anyone) h ∧
        h.registry.closed = false ∧ (∀ a ∈ h.registry.actions, a.callPanics = none) ∧ h.Tame ∧ h.IsUp ∧
        ∃ h', Run (Move nobody) (drain 100) h (.returned [.failed "x" (Cause.ofPanic 0 (.text "boom"))]) h' ∧
          h'.metrics.actions = [.failed, .ok] := by
      have hcalls : ∀ a ∈ [Action.mk "x" [.panic (.text "boom")] none, ⟨"y", [.note "ran"], none⟩],
          a.callPanics = none := by simp
      refine ⟨_, hsecond, rfl, hcalls, ⟨hcalls, nofun⟩, .inl rfl, ?_, ?run, ?_⟩
      case run =>
        iterate 4 apply Run.step .refl
        apply Run.wait (i := 0) (.single (.inl (.finish (t := 0) (o := .panicked (.text "boom")) _ rfl trivial)))
          ⟨_, rfl, rfl, fun _ => nofun⟩
        iterate 4 apply Run.step .refl
        apply Run.wait (i := 0) (.single (.inl (.finish (t := 1) (o := .returned (.ok ())) _ rfl trivial)))
          ⟨_, rfl, rfl, fun _ => nofun⟩
        iterate 3 apply Run.step .refl
        exact .done _ _
      · rfl
    obtain ⟨hdrain, hshutdown⟩ := (panics_stay_with_their_actions h 100 hopen).1 hcalls
    obtain ⟨turns, w⟩ := (hdrain.of_run hrun).2.1 _ rfl
    refine ⟨h, hopen, hcalls, hr, ht, hup, ⟨h', turns, hrun, hcounted, w⟩, ?_⟩
    exact Meets.exists_run (hshutdown nobody .requested hr ht hup) trivial (fun _ => id) False.elim
  · have hfirst := hfresh.passed _ _ (.single (.inl (.register _ ⟨"x", [], some (.text "boom")⟩)))
    have hsecond := hfirst.passed _ _ (.single (.inl (.register _ ⟨"y", [.note "ran"], none⟩)))
    obtain ⟨h, hr, hopen, hpanics, hup, h₁, hdrains, h₂, hstops⟩ : ∃ h : Host, Reached (Move anyone) h ∧
        h.registry.closed = false ∧ (∃ a ∈ h.registry.actions, a.callPanics.isSome = true) ∧ h.IsUp ∧
        ∃ h₁, Run (Move nobody) (drain 100) h (.panicked (.text "boom")) h₁ ∧
          ∃ h₂, Run (Move nobody) (shutdown .requested) h (.panicked (.text "boom")) h₂ := by
      refine ⟨_, hsecond, rfl, ⟨_, List.mem_cons_self, rfl⟩, .inl rfl, ?_, ?drains, ?_, ?stops⟩
      case drains =>
        iterate 3 apply Run.step .refl
        exact .panic _ _
      case stops =>
        iterate 5 apply Run.step .refl
        exact .panic _ _
    obtain ⟨hdrain, hshutdown⟩ := (panics_stay_with_their_actions h 100 hopen).2 hpanics
    have hdown := (hdrain.of_run hdrains).2.2.1 _ rfl
    have hstuck := ((hshutdown .requested hr hup).of_run hstops).2.2.1 _ rfl
    exact ⟨h, hopen, hpanics, hr, hup, ⟨h₁, hdrains, hdown⟩, h₂, hstops, hstuck⟩

/-! ## A panic in the call of an action -/

/-- The call of the first of two actions panics, long before the deadline: the second is not run, and the registry is left
closed. -/
theorem exists_torn_drain : ∃ h h' : Host,
    h.registry = ⟨[⟨"x", [], some (.text "boom")⟩, ⟨"y", [], none⟩], false⟩ ∧
      Run (Move nobody) (drain 100) h (.panicked (.text "boom")) h' ∧ h'.now < 100 ∧
      h'.registry = ⟨[], true⟩ ∧ h'.tasks = [] := by
  refine ⟨{ coordinator := { config := {} },
            registry := ⟨[⟨"x", [], some (.text "boom")⟩, ⟨"y", [], none⟩], false⟩ }, ?_⟩
  apply Exists.intro
  refine ⟨rfl, ?_, ?_⟩
  · iterate 3 apply Run.step .refl
    exact .panic _ _
  · exact ⟨by decide, rfl, rfl⟩

/-- A resource is up, and the call of an action panics: the shutdown never gets to the close of the resource. -/
theorem exists_torn_shutdown : ∃ h h' : Host, Reached (Move anyone) h ∧ h.coordinator.phase = .running ∧
    h.coordinator.started = [⟨0, 0⟩] ∧ h.registry = ⟨[⟨"x", [], some (.text "boom")⟩], false⟩ ∧
    Run (Move nobody) (shutdown .requested) h (.panicked (.text "boom")) h' ∧
    h'.now < h.shutdownDeadline ∧ h'.coordinator.phase = .shuttingDown ∧ closesOf h'.doings = [] := by
  have hfresh : Reached (Move anyone)
      { coordinator := { config := { handleSignals := false } }, resources := [.scripted "db" {}] } :=
    .fresh _ ⟨rfl, rfl, rfl, rfl, rfl⟩
  have hadded := hfresh.called _ (.add 0) _ (.step .refl (.done _ _))
  have hregistered := hadded.passed _ _ (.single (.inl (.register _ ⟨"x", [], some (.text "boom")⟩)))
  apply Exists.intro
  apply Exists.intro
  refine ⟨hregistered.called _ .startAll ?_ ?boot, ?_, ?_, ?_, ?stops, ?_, ?_, ?_⟩
  case boot =>
    iterate 11 apply Run.step .refl
    apply Run.wait (i := 0) (.single (.inl (.ready _ 0))) ⟨_, rfl, rfl, fun _ => nofun⟩
    iterate 4 apply Run.step .refl
    exact .done _ _
  case stops =>
    iterate 5 apply Run.step .refl
    exact .panic _ _
  · rfl
  · rfl
  · rfl
  · decide
  · rfl
  · rfl

/-- The drain calls an action itself, so what the call panics with takes down the drain and the shutdown. -/
theorem panicking_call_tears_drain_and_shutdown :
    (∃ h h' : Host, h.registry = ⟨[⟨"x", [], some (.text "boom")⟩, ⟨"y", [], none⟩], false⟩ ∧
      Run (Move nobody) (drain 100) h (.panicked (.text "boom")) h' ∧ h'.now < 100 ∧
      h'.registry = ⟨[], true⟩ ∧ h'.tasks = []) ∧
    ∃ h h' : Host, Reached (Move anyone) h ∧ h.coordinator.phase = .running ∧
      h.coordinator.started = [⟨0, 0⟩] ∧ h.registry = ⟨[⟨"x", [], some (.text "boom")⟩], false⟩ ∧
      Run (Move nobody) (shutdown .requested) h (.panicked (.text "boom")) h' ∧
      h'.now < h.shutdownDeadline ∧ h'.coordinator.phase = .shuttingDown ∧ closesOf h'.doings = [] :=
  ⟨exists_torn_drain, exists_torn_shutdown⟩

end ServiceHost.Lifecycle
