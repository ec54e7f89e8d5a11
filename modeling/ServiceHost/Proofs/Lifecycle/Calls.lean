import ServiceHost.Proofs.Lifecycle.Life
import ServiceHost.Proofs.Lifecycle.Moments

/-! Calls of a coordinator, one after another, in any order and any number of times. What holds between two of them
holds in every state that calls can reach. -/

namespace ServiceHost.Lifecycle

open Relation Routine

variable {D : Instant → Prop} {P : Prop} {h h' : Host}

inductive Call where
  | add (r : ResourceId)
  | startAll
  | trigger (reason : StopReason)
  | awaitStop
  | shutdown (reason : StopReason)
  | run

def Call.routine : Call → Routine Unit
  | add r => update (addResource r)
  | startAll => do
    let _ ← Lifecycle.startAll
    return ()
  | trigger reason => update fun h => (h.fire reason).2
  | awaitStop => do
    let _ ← Lifecycle.awaitStop
    return ()
  | shutdown reason => do
    let _ ← Lifecycle.shutdown reason
    return ()
  | run => do
    let _ ← Lifecycle.run
    return ()

/-- The coordinator is new. -/
structure Host.Fresh (h : Host) : Prop where
  coordinator : h.coordinator = { config := h.coordinator.config }
  registry : h.registry = {}
  tasks : h.tasks = []
  exits : h.exits = []
  history : h.history = []

/-- The states between calls: each call came to its end or panicked, and between two calls others move and time
passes. -/
inductive Reached (E : Host → Host → Prop) : Host → Prop where
  | fresh (h : Host) : h.Fresh → Reached E h
  | passed (h h' : Host) : Reached E h → Waits E [] h h' → Reached E h'
  | called (h : Host) (c : Call) (h' : Host) : Reached E h → Run E c.routine h (.returned ()) h' →
      Reached E h'
  | panicked (h : Host) (c : Call) (p : Payload) (h' : Host) : Reached E h →
      Run E c.routine h (.panicked p) h' → Reached E h'

theorem Host.Fresh.idle (f : h.Fresh) : Idle h := by
  have hdeeds : h.deeds = [] := by rw [Host.deeds, f.history, List.map_nil]
  have hd : h.doings = [] := by rw [Host.doings, Host.conduct, f.history]; rfl
  have htask : ∀ t, h.task? t = none := fun t => by rw [Host.task?, f.tasks]; rfl
  have hjob : ∀ t, h.job? t = none := fun t => by rw [Host.job?, htask]; rfl
  have hready : ∀ t, h.readiness t = none := fun t => Host.readiness_eq_none (hjob t)
  have hnone : ∀ {d : Deed}, d ∉ h.deeds := by rw [hdeeds]; exact List.not_mem_nil
  exact
    { books :=
        { started := fun {r t} => ⟨fun hj => by simp [hjob] at hj, fun hs => absurd hs hnone⟩
          ended := fun hc => absurd hc hnone
          once := fun hc => absurd hc hnone
          came := fun hj => by simp [hjob] at hj
          failed := fun hr => by simp [hready] at hr
          told := fun hj => by simp [hjob] at hj
          exit := fun he => absurd he hnone
          up := fun hu => absurd hu hnone
          settled := fun hs => absurd hs hnone
          roll := fun _ => by rw [f.registry, Host.accepts, hdeeds]; rfl }
      orderly := by rw [hd]; exact .nil
      distinct := by rw [hd]; exact .nil
      stopping := fun hp => by rw [f.coordinator] at hp; rcases hp with hp | hp <;> cases hp
      fresh := fun _ _ => by rw [hd, f.coordinator]; exact ⟨rfl, rfl, fun _ => List.not_mem_nil⟩
      upright := fun _ =>
        { held := by rw [f.coordinator]; exact List.nil_sublist _
          up := by rw [f.coordinator]; exact fun _ hx => absurd hx List.not_mem_nil
          alive := by rw [f.coordinator]; exact fun _ hx => absurd hx List.not_mem_nil
          others := by rw [hd]; exact fun _ hx => absurd hx List.not_mem_nil
          unclosed := by rw [hd]; rfl
          running := by rw [hd]; exact List.not_mem_nil } }

theorem Idle.add (i : Idle h) (r : ResourceId) : Idle (addResource r h) := by
  have hd : (addResource r h).doings = h.doings ++ [.added r] := Host.doings_record _ rfl
  have p : Proper (addResource r h) := by
    have pe : Proper (h.emit (.resourceAdded (h.resourceName r))) :=
      i.toProper.leaves (Frame.emit (D := fun _ => False) h _).leaves
    have pm := pe.modifyCoordinator (f := fun c => { c with pending := c.pending ++ [r] }) rfl
    exact pm.record rfl (by rintro _ ⟨⟩) (by rintro _ ⟨⟩) (by rintro _ ⟨⟩) trivial
  exact
    { p with
      fresh := fun hp hb => by
        obtain ⟨hs, ha, hq⟩ := i.fresh hp hb
        refine ⟨?_, ?_, by simpa [hd] using hq⟩
        · rw [hd, startsOf_append, hs]
          rfl
        · rw [hd, addsOf_append, ha]
          rfl
      upright := fun hp => (i.upright hp).concat hd rfl rfl nofun rfl rfl }

/-! ## One call -/

/-- Others may drain under any deadline. -/
def anyone : Instant → Prop := fun _ => True

theorem meets_drain (hs : h.Steady P) {d : Instant} :
    (drain d).Meets { rely := Peers D P } (fun _ _ => True) h :=
  ((meets_drain_inTime hs).mono fun _ _ _ _ => trivial).weaken id (fun _ _ => trivial)
    (fun _ => trivial) (fun ht => ht.elim) (fun _ => trivial) fun _ _ => trivial

/-- What holds between two calls holds after one more, and whenever it panics. -/
theorem meets_call (i : Idle h) (c : Call) :
    c.routine.Meets { rely := Move D, always := Proper, panics := Idle } (fun _ h' => Idle h') h := by
  have hs : ∀ g : Host, g.Steady True := fun _ => .inl trivial
  have hpeers : ∀ {g g'}, Move D g g' → Peers D True g g' := fun m => ⟨m, fun _ => .inl trivial⟩
  suffices hc : c.routine.Meets (runTerms D True) (fun _ h' => Idle h') h from
    hc.weaken hpeers (fun _ _ => trivial) id False.elim id fun _ hp => hp.2
  cases c with
  | add r =>
    refine meets_update.2 ⟨i.toProper, trivial, ?_⟩
    intro h' o
    exact ⟨((i.add r).leaves o.frame.leaves).toProper, (i.add r).leaves o.frame.leaves⟩
  | trigger reason =>
    have m : Leaves h (h.fire reason).2 := (Frame.of_move (D := D) (.fire h reason)).leaves
    refine meets_update.2 ⟨i.toProper, trivial, ?_⟩
    intro h' o
    exact ⟨((i.leaves m).leaves o.frame.leaves).toProper, (i.leaves m).leaves o.frame.leaves⟩
  | startAll =>
    refine Meets.andThen (R := fun _ h' => Idle h') ?_ fun _ _ ha i' => ⟨ha, i'⟩
    exact ((meets_startAll_booted i).mono fun _ _ _ b => b.idle).weaken id (fun _ _ => trivial) id id
      (fun _ => trivial) fun _ => False.elim
  | awaitStop =>
    refine Meets.andThen (R := fun _ h' => Idle h') ?_ fun _ _ ha i' => ⟨ha, i'⟩
    exact ((meets_awaitStop (P := True) i).mono fun _ _ _ hq => hq.1).weaken id (fun _ _ => trivial) id id
      id fun _ => False.elim
  | shutdown reason =>
    refine Meets.andThen (R := fun _ h' => Idle h') ?_ fun _ _ ha i' => ⟨ha, i'⟩
    exact (meets_shutdown_downed reason i (hs h) fun g _ => meets_drain (hs g)).mono fun _ _ _ c => c.idle
  | run =>
    refine Meets.andThen (R := fun _ h' => Idle h') ?_ fun _ _ ha i' => ⟨ha, i'⟩
    exact (meets_run i (hs h) fun _ g _ _ => meets_drain (hs g)).mono fun _ _ _ hq => hq.1

/-- By induction over the calls. -/
theorem Reached.idle (r : Reached (Move D) h) : Idle h := by
  induction r with
  | fresh h hf => exact hf.idle
  | passed h h' _ w ih => exact ih.leaves (Waits.frame (P := True) w.peers).leaves
  | called h c h' _ hr ih => exact ((meets_call ih c).of_run hr).2.1 () rfl
  | panicked h c p h' _ hr ih => exact ((meets_call ih c).of_run hr).2.2.1 p rfl

/-! ## The order of starts and closes -/

/-- Three resources come up and are stopped. The action that is registered fails, the first close fails, the second
hangs until the deadline, when it is too late for the third, whose start has come back with an error. -/
theorem exists_stop_of_three : ∃ (h h' : Host) (failures : Failures),
    Reached (Move anyone) h ∧ h.Tame ∧ h.IsUp ∧ h.coordinator.started = [⟨0, 0⟩, ⟨1, 1⟩, ⟨2, 2⟩] ∧
    failures = [.failed "flush" (.text "refused"), .failed "db" (.resource (.io "lost")), .timedOut "web",
      .skipped "log", .failed "log" (.resource (.io "gone"))] ∧
    Run (Peers (fun _ => False) False) (shutdown .requested) h (.returned failures) h' ∧
    h'.now = h.shutdownDeadline ∧ startsOf h'.doings = [⟨0, 0⟩, ⟨1, 1⟩, ⟨2, 2⟩] ∧
    closesOf h'.doings = [⟨0, 0⟩, ⟨1, 1⟩] := by
  have hfresh : Reached (Move anyone)
      { coordinator := { config := { handleSignals := false } },
        resources := [.scripted "db" { close := [.fail (.resource (.io "lost"))] },
          .scripted "web" { close := [.hang] }, .scripted "log" {}] } := .fresh _ ⟨rfl, rfl, rfl, rfl, rfl⟩
  have hfirst := hfresh.called _ (.add 0) _ (.step .refl (.done _ _))
  have hsecond := hfirst.called _ (.add 1) _ (.step .refl (.done _ _))
  have hthird := hsecond.called _ (.add 2) _ (.step .refl (.done _ _))
  have hregistered := hthird.passed _ _
    (.single (.inl (.register _ ⟨"flush", [.fail (.text "refused")], none⟩)))
  apply Exists.intro
  apply Exists.intro
  refine ⟨_, hregistered.called _ .startAll ?_ ?boot, ?_, ?_, ?_, rfl, ?stop, ?_, ?_, ?_⟩
  case boot =>
    iterate 11 apply Run.step .refl
    -- The starts report ready while the coordinator waits for them.
    apply Run.wait (i := 0) (.single (.inl (.ready _ 0))) ⟨_, rfl, rfl, fun _ => nofun⟩
    iterate 9 apply Run.step .refl
    apply Run.wait (i := 0) (.single (.inl (.ready _ 1))) ⟨_, rfl, rfl, fun _ => nofun⟩
    iterate 9 apply Run.step .refl
    apply Run.wait (i := 0) (.single (.inl (.ready _ 2))) ⟨_, rfl, rfl, fun _ => nofun⟩
    iterate 4 apply Run.step .refl
    exact .done _ _
  case stop =>
    iterate 6 apply Run.step .refl
    apply Run.wait (i := 0)
      (.single (.inl ⟨.finish (t := 3) (o := .returned (.error (.text "refused"))) _ rfl trivial,
        fun hs => hs.of_same rfl rfl⟩)) ⟨_, rfl, rfl, fun _ => nofun⟩
    iterate 17 apply Run.step .refl
    -- While the second close hangs, the third start comes back, and then the deadline passes.
    apply Run.wait (i := 0)
      (.head (.inl ⟨.comeBack (t := 2) _ (.error (.io "gone")) rfl rfl, fun hs => hs.of_same rfl rfl⟩)
        (.single (.inr ⟨5000, Nat.zero_le _, fun d hd _ => ?_, rfl⟩)))
      ⟨.due 5000, rfl, rfl, fun _ _ _ hj => absurd hj (Nat.not_lt_zero _)⟩
    · iterate 9 apply Run.step .refl
      exact .done _ _
    · cases List.mem_singleton.1 hd
      exact Nat.le_refl 5000
  · refine Host.tame_of_scripted [("db", { close := [.fail (.resource (.io "lost"))] }), ("web", { close := [.hang] }),
      ("log", {})] ?_ rfl (by simp)
    exact fun a ha => by cases List.mem_singleton.1 ha; rfl
  · exact .inr rfl
  · rfl
  · rfl
  · rfl
  · rfl

/-- What the first shutdown, begun in `h`, leaves behind. -/
structure StoppedInTime (D : Instant → Prop) (h h' : Host) : Prop where
  now : h'.now ≤ h.now + h.coordinator.config.shutdownTimeoutMs
  phase : h'.coordinator.phase = .stopped
  closed : h'.registry.closed = true
  started : h'.coordinator.started = []
  closes : ∀ t s, (t, .close s) ∈ h'.conduct → t < h.now + h.coordinator.config.shutdownTimeoutMs
  /-- Since then actions were put on a task by this shutdown, or by others who drain, and each before the
  deadline. -/
  actions : ∀ t b a d, h.tasks.length ≤ t → h'.task? t = some b → b.job = .action a d →
    b.spawned < d ∧ (d = h.now + h.coordinator.config.shutdownTimeoutMs ∨ D d)
  starts : ∀ t r, h'.job? t = some (.start r .coordinator) → h'.isEnded t = true

theorem ShutDown.inTime {K : Host → Failures → Host → Prop} {fs : Failures} (i : Idle h) (hup : h.IsUp)
    (c : ShutDown D P K h fs h') : StoppedInTime D h h' where
  now := c.now
  phase := c.phase
  closed := c.closed
  started := c.started
  closes t s hmem := by
    obtain ⟨t₁, t₂, t₃, drained, l, hl, he⟩ := c.conduct
    have hnew : (t, .close s) ∉ h.conduct := fun hold => by
      have hclose : s ∈ closesOf h.doings := mem_closesOf.2 (List.mem_map.2 ⟨_, hold, rfl⟩)
      rw [(i.upright hup).unclosed] at hclose
      cases hclose
    rw [he] at hmem
    have hmem' : (t, .close s) ∈ l := by simpa [hnew] using hmem
    exact hl.close_lt hmem'
  actions t b a d hle hb hj := by
    obtain ⟨hd, hlt⟩ := c.spares.invoked hle hb hj
    exact ⟨hlt, hd.symm⟩
  starts := c.ended

/-- The first shutdown returns by its deadline, whatever was called before and however the actions, the closes and
the starts behave, and no start is left running. -/
theorem shutdown_returns_by_its_deadline (hr : Reached (Move anyone) h) (ht : h.Tame) (hup : h.IsUp)
    (D : Instant → Prop) (reason : StopReason) :
    (shutdown reason).Returns (Peers D False)
      (fun g => g.now ≤ h.now + h.coordinator.config.shutdownTimeoutMs) h
      (fun _ h' => StoppedInTime D h h') := by
  have hs : h.Steady False := .inr ht
  have hdrain : ∀ g, Begun D False h g →
      (drain h.shutdownDeadline).Meets { rely := Peers D False } (fun _ _ => True) g := fun g b => by
    obtain ⟨t, k⟩ := b.keeps
    exact meets_drain (k.steady hs)
  have m := meets_shutdown (K := fun _ _ _ => True) reason hr.idle hs hdrain
  exact (m.mono fun fs h' _ hq => (hq.2 hup).inTime hr.idle hup).weaken id (fun _ => id)
    (fun ha => ha.2) id id fun _ => id

/-- A shutdown whose second close hangs returns at its deadline. -/
theorem shutdown_with_hanging_close : ∃ (h h' : Host) (failures : Failures),
    Reached (Move anyone) h ∧ h.Tame ∧ h.IsUp ∧ h.coordinator.started = [⟨0, 0⟩, ⟨1, 1⟩, ⟨2, 2⟩] ∧
    failures = [.failed "flush" (.text "refused"), .failed "db" (.resource (.io "lost")), .timedOut "web",
      .skipped "log", .failed "log" (.resource (.io "gone"))] ∧
    Run (Peers (fun _ => False) False) (shutdown .requested) h (.returned failures) h' ∧
    h'.now = h.shutdownDeadline ∧ closesOf h'.doings = [⟨0, 0⟩, ⟨1, 1⟩] ∧ StoppedInTime (fun _ => False) h h' := by
  obtain ⟨h, h', failures, hr, ht, hup, hstarted, hfailures, hstop, hnow, -, hcloses⟩ := exists_stop_of_three
  have hreturns := shutdown_returns_by_its_deadline hr ht hup (fun _ => False) .requested
  have hdone : StoppedInTime (fun _ => False) h h' := (hreturns.of_run hstop).2.1 _ rfl
  exact ⟨h, h', failures, hr, ht, hup, hstarted, hfailures, hstop, hnow, hcloses, hdone⟩

end ServiceHost.Lifecycle
