import Mathlib.Data.List.Sort
import ServiceHost.Proofs.Lifecycle.Steps

/-! The phases of a coordinator rise under any calls, and the trigger, the registry, the boot's failure
and what is held agree with them. Once it has stopped nothing that is called does anything more. -/

namespace ServiceHost.Lifecycle

open Relation Routine

variable {α : Type} {E : Host → Host → Prop} {C : Call → Prop} {G : StopReason → Prop} {h h₀ h' h'' : Host}

/-! ## The phases that were published -/

namespace Phase

def all : List Phase := [notStarted, running, shuttingDown, stopped]

/-- Phases that rise are some of them all, in order. -/
theorem sublist_all {ps : List Phase} (hp : ps.Pairwise fun p q => p.rank < q.rank) : ps.Sublist all := by
  have hnodup : ps.Nodup := hp.imp fun {p q} hlt => by
    rintro rfl
    exact Nat.lt_irrefl _ hlt
  have hmem : ps ⊆ all := fun p _ => by cases p <;> decide
  have : Std.Antisymm fun p q : Phase => p.rank < q.rank := ⟨fun _ _ hlt hgt => absurd hlt (Nat.lt_asymm hgt)⟩
  exact List.sublist_of_subperm_of_pairwise (hnodup.subperm hmem) hp (by decide)

end Phase

namespace Coordinator

/-- The phases entered so far, after that in which a coordinator begins, oldest first. -/
def published (c : Coordinator) : List Phase := .notStarted :: c.entered.reverse

/-- The phases published rise, and the last of them is the one that holds. -/
structure Rises (c : Coordinator) : Prop where
  rising : c.published.Pairwise fun p q => p.rank < q.rank
  last : c.published.getLast? = some c.phase

theorem Rises.le {c : Coordinator} (u : c.Rises) {p : Phase} (hp : p ∈ c.published) :
    p.rank ≤ c.phase.rank := by
  obtain ⟨before, he⟩ := List.getLast?_eq_some_iff.1 u.last
  have hrising := u.rising
  rw [he, List.pairwise_append] at hrising
  rw [he] at hp
  rcases List.mem_append.1 hp with hp | hp
  · exact Nat.le_of_lt (hrising.2.2 p hp _ List.mem_cons_self)
  · rw [List.mem_singleton.1 hp]

theorem Rises.enter {c c' : Coordinator} {p : Phase} (u : c.Rises) (hlt : c.phase.rank < p.rank)
    (he : c'.published = c.published ++ [p]) (hp : c'.phase = p) : c'.Rises where
  rising := by
    rw [he, List.pairwise_append]
    refine ⟨u.rising, List.pairwise_singleton .., fun q hq x hx => ?_⟩
    rw [List.mem_singleton.1 hx]
    exact Nat.lt_of_le_of_lt (u.le hq) hlt
  last := by rw [he, hp, List.getLast?_append, List.getLast?_singleton, Option.some_or]

end Coordinator

/-- What the records of a coordinator, the trigger and the registry say of each other at every moment. -/
structure Sound (h : Host) : Prop where
  rises : h.coordinator.Rises
  triggered : h.coordinator.phase = .shuttingDown ∨ h.coordinator.phase = .stopped → h.trigger.reason.isSome
  stopped : h.coordinator.phase = .stopped → h.registry.closed = true ∧ h.coordinator.started = []
  failed : h.coordinator.bootFailure.isSome → .running ∉ h.coordinator.published

/-- Nothing shuts down before there is a reason. -/
theorem Sound.isUp (s : Sound h) (ht : h.trigger.reason = none) : h.IsUp :=
  Host.isUp_of_not_down fun hdown => by
    have hsome := s.triggered hdown
    rw [ht] at hsome
    cases hsome

/-- What is kept for good: phases are published one after another, and a boot that failed stays so. -/
structure Onward (h h' : Host) : Prop where
  published : h.coordinator.published <+: h'.coordinator.published
  bootFailure : ∀ name, h.coordinator.bootFailure = some name → h'.coordinator.bootFailure = some name
  grows : h.Grows h'

theorem Onward.refl (h : Host) : Onward h h := ⟨List.prefix_rfl, fun _ => id, .refl h⟩

theorem Onward.trans (m : Onward h h') (m' : Onward h' h'') : Onward h h'' :=
  ⟨m.published.trans m'.published, fun name hn => m'.bootFailure name (m.bootFailure name hn),
    m.grows.trans m'.grows⟩

theorem Host.Fresh.sound (f : h.Fresh) : Sound h := by
  have hc := f.coordinator
  refine ⟨⟨?_, ?_⟩, fun hp => ?_, fun hp => ?_, fun hb => ?_⟩
  · rw [hc]
    exact List.pairwise_singleton ..
  · rw [hc]
    rfl
  · rw [hc] at hp
    simp at hp
  · rw [hc] at hp
    simp at hp
  · rw [hc] at hb
    simp at hb

/-! ## The steps -/

/-- A step that enters no phase, and does not change what is held once everything is over. -/
theorem Sound.keep (s : Sound h) (g : h.Grows h') (hphase : h'.coordinator.phase = h.coordinator.phase)
    (hentered : h'.coordinator.entered = h.coordinator.entered)
    (hboot : h'.coordinator.bootFailure = h.coordinator.bootFailure)
    (hstarted : h.coordinator.phase = .stopped → h'.coordinator.started = h.coordinator.started) :
    Sound h' ∧ Onward h h' := by
  have hpublished : h'.coordinator.published = h.coordinator.published := by
    rw [Coordinator.published, hentered, Coordinator.published]
  refine ⟨⟨⟨?_, ?_⟩, fun hp => ?_, fun hp => ?_, fun hb => ?_⟩, ?_, fun name hn => ?_, g⟩
  · rw [hpublished]
    exact s.rises.rising
  · rw [hpublished, hphase]
    exact s.rises.last
  · obtain ⟨reason, hr⟩ := Option.isSome_iff_exists.1 (s.triggered (hphase ▸ hp))
    rw [g.trigger reason hr]
    rfl
  · rw [hphase] at hp
    obtain ⟨hclosed, hempty⟩ := s.stopped hp
    rw [g.registry hclosed, hstarted hp]
    exact ⟨hclosed, hempty⟩
  · rw [hpublished]
    exact s.failed (hboot ▸ hb)
  · exact hpublished ▸ List.prefix_rfl
  · rw [hboot, hn]

/-- A step that enters a phase. -/
theorem Sound.enter (s : Sound h) {p : Phase} (g : h.Grows h') (hphase : h'.coordinator.phase = p)
    (hentered : h'.coordinator.entered = p :: h.coordinator.entered)
    (hboot : h'.coordinator.bootFailure = h.coordinator.bootFailure) (hlt : h.coordinator.phase.rank < p.rank)
    (hfailed : p = .running → h.coordinator.bootFailure = none)
    (htriggered : p = .shuttingDown ∨ p = .stopped → h'.trigger.reason.isSome)
    (hstopped : p = .stopped → h'.registry.closed = true ∧ h'.coordinator.started = []) :
    Sound h' ∧ Onward h h' := by
  have hpublished : h'.coordinator.published = h.coordinator.published ++ [p] := by
    simp [Coordinator.published, hentered]
  refine ⟨⟨s.rises.enter hlt hpublished hphase, ?_, ?_, fun hb hmem => ?_⟩, ?_, fun name hn => ?_, g⟩
  · rwa [hphase]
  · rwa [hphase]
  · rw [hpublished, List.mem_append, List.mem_singleton] at hmem
    rw [hboot] at hb
    rcases hmem with hmem | rfl
    · exact s.failed hb hmem
    · simp [hfailed rfl] at hb
  · rw [hpublished]
    exact List.prefix_append ..
  · rw [hboot, hn]

theorem Sound.standing (s : Sound h) (m : Standing h h') : Sound h' ∧ Onward h h' :=
  s.keep m.grows (by rw [m.coordinator]) (by rw [m.coordinator]) (by rw [m.coordinator]) fun _ => by
    rw [m.coordinator]

theorem Host.Unbooted.not_stopped (hu : h.Unbooted) : h.coordinator.phase ≠ .stopped := by
  rw [hu.1]
  decide

theorem BootStep.sound (m : BootStep h h') (s : Sound h) : Sound h' ∧ Onward h h' := by
  have g : h.Grows h' := m.grows
  cases m with
  | look => exact ⟨s, .refl h⟩
  | listen =>
    have hl := leaves_listen h
    have hentered : (Lifecycle.listen h).coordinator.entered = h.coordinator.entered := by
      unfold Lifecycle.listen
      split <;> rfl
    exact s.keep g hl.phase hentered hl.bootFailure fun _ => hl.started
  | tell _ | takePending _ | launch _ _ | judge _ _ _ | giveUp _ _ _ _ => exact s.keep g rfl rfl rfl fun _ => rfl
  | hold x hu => exact s.keep g rfl rfl rfl fun hp => absurd hp hu.not_stopped
  | breakOff e left hu =>
    refine ⟨⟨⟨s.rises.rising, s.rises.last⟩, ?_, fun hp => absurd hp hu.not_stopped, fun _ hmem => ?_⟩,
      List.prefix_rfl, fun name hn => ?_, g⟩
    · exact s.triggered
    · have hle := s.rises.le hmem
      rw [hu.1] at hle
      exact absurd hle (by decide)
    · rw [hu.2] at hn
      cases hn
  | run count hu =>
    refine s.enter (p := .running) g rfl rfl rfl ?_ (fun _ => hu.2) (by simp) (by simp)
    rw [hu.1]
    decide

theorem WaitStep.sound (m : WaitStep h h') (s : Sound h) : Sound h' ∧ Onward h h' := by
  have hhear : ∀ {es rest}, h.exits = es ++ rest → Sound (es.foldl Host.onExit { h with exits := rest }) ∧
      Onward h (es.foldl Host.onExit { h with exits := rest }) := by
    intro es rest he
    have g := (Hears.of_exits (D := nobody) (P := True) he).leaves.grows
    obtain ⟨_, _, -, heq⟩ := Host.foldl_onExit_eq es { h with exits := rest }
    rw [heq] at g ⊢
    exact s.keep g rfl rfl rfl fun _ => rfl
  cases m with
  | look => exact ⟨s, .refl h⟩
  | listen => exact (BootStep.listen h).sound s
  | hear =>
    unfold Host.hearExit
    split
    · exact ⟨s, .refl h⟩
    · next e rest he =>
      have hfirst : h.exits = [e] ++ rest := he
      exact hhear hfirst
  | hearAll =>
    obtain ⟨s', m'⟩ := hhear (List.append_nil h.exits).symm
    exact ⟨(s'.standing (.of_beside (.record _ rfl))).1, m'.trans (s'.standing (.of_beside (.record _ rfl))).2⟩

theorem Host.isSome_fire (h : Host) (reason : StopReason) : (h.fire reason).2.trigger.reason.isSome := by
  cases hr : h.trigger.reason <;> simp [fire, Trigger.fire, hr, Host.emit, Host.note]

theorem StopStep.sound (m : StopStep G h h') (s : Sound h) : Sound h' ∧ Onward h h' := by
  have g : h.Grows h' := m.grows
  cases m with
  | look => exact ⟨s, .refl h⟩
  | tell _ => exact s.keep g rfl rfl rfl fun _ => rfl
  | beside _ b => exact s.standing (.of_beside b)
  | @begin reason _ hup =>
    refine s.enter (p := .shuttingDown) g rfl rfl rfl ?_ (by simp) (fun _ => h.isSome_fire reason) (by simp)
    rcases hup with hp | hp <;> rw [hp] <;> decide
  | takeStarted drained hp _ =>
    refine s.keep g rfl rfl rfl fun hs => ?_
    rw [hp] at hs
    cases hs
  | finish failures hp hclosed hempty =>
    refine s.enter (p := .stopped) g rfl rfl rfl ?_ (by simp) (fun _ => s.triggered (.inl hp)) fun _ =>
      ⟨hclosed, hempty⟩
    rw [hp]
    decide

theorem Step.sound (m : Step G h h') (s : Sound h) : Sound h' ∧ Onward h h' := by
  have g : h.Grows h' := m.grows
  cases m with
  | look => exact ⟨s, .refl h⟩
  | tell _ | add _ => exact s.keep g rfl rfl rfl fun _ => rfl
  | @fire reason _ => exact s.standing (.of_beside (.fire h reason))
  | boot m => exact m.sound s
  | wait m => exact m.sound s
  | stop m => exact m.sound s

/-- Whatever is called, what holds of the records goes on to hold, and nothing published is taken back. -/
theorem Later.sound (hE : ∀ {a b}, E a b → Move anyone a b) (l : Later E C h h') (s : Sound h) :
    Sound h' ∧ Onward h h' :=
  l.tracks (R := fun a b => Sound a → Sound b ∧ Onward a b) hE (fun a s => ⟨s, .refl a⟩)
    (fun f f' s => ⟨(f' (f s).1).1, (f s).2.trans (f' (f s).1).2⟩) (fun m s => s.standing (.of_move (hE m)))
    (fun m s => s.standing (.of_tick m)) (fun _ => Step.sound) s

/-! ## After the end -/

/-- A step that puts no action and no start on a task and closes nothing, and leaves every count, the
trigger, the registry and the resources alone. -/
structure Inert (h h' : Host) : Prop where
  jobs : ∀ t j, h'.job? t = some j → h.job? t = some j ∨ j = .listen
  starts : startsOf h'.doings = startsOf h.doings
  closes : closesOf h'.doings = closesOf h.doings
  metrics : h'.metrics = h.metrics
  trigger : h'.trigger = h.trigger
  registry : h'.registry = h.registry
  resources : h'.resources = h.resources

namespace Inert

theorem of_same (htasks : h'.tasks = h.tasks) (hhistory : h'.history = h.history) (hmetrics : h'.metrics = h.metrics)
    (htrigger : h'.trigger = h.trigger) (hregistry : h'.registry = h.registry)
    (hresources : h'.resources = h.resources) : Inert h h' where
  jobs t j hj := .inl (by rwa [Host.job?_congr htasks] at hj)
  starts := by rw [Host.doings_congr hhistory]
  closes := by rw [Host.doings_congr hhistory]
  metrics := hmetrics
  trigger := htrigger
  registry := hregistry
  resources := hresources

theorem refl (h : Host) : Inert h h := of_same rfl rfl rfl rfl rfl rfl

theorem trans (m : Inert h h') (m' : Inert h' h'') : Inert h h'' where
  jobs t j hj := (m'.jobs t j hj).elim (m.jobs t j) .inr
  starts := m'.starts.trans m.starts
  closes := m'.closes.trans m.closes
  metrics := m'.metrics.trans m.metrics
  trigger := m'.trigger.trans m.trigger
  registry := m'.registry.trans m.registry
  resources := m'.resources.trans m.resources

theorem emit (h : Host) (e : Event) : Inert h (h.emit e) := of_same rfl rfl rfl rfl rfl rfl

theorem record (h : Host) {d : Deed} (hd : d.isForeign = false) (hstart : d.start? = none)
    (hclose : d.close? = none) : Inert h (h.record d) where
  jobs _ _ := .inl
  starts := by simp [h.doings_record hd, hstart]
  closes := by simp [h.doings_record hd, hclose]
  metrics := rfl
  trigger := rfl
  registry := rfl
  resources := rfl

theorem listen (h : Host) : Inert h (listen h) := by
  unfold Lifecycle.listen
  split
  · refine ⟨fun t j hj => ?_, rfl, rfl, rfl, rfl, rfl, rfl⟩
    have hj' : (h.spawn .listen).2.job? t = some j := hj
    rw [Host.job?_spawn] at hj'
    split at hj'
    · exact .inr (Option.some.inj hj').symm
    · exact .inl hj'
  · exact refl h

theorem fire (ht : h.trigger.reason.isSome) (reason : StopReason) : Inert h (h.fire reason).2 := by
  obtain ⟨first, hr⟩ := Option.isSome_iff_exists.1 ht
  exact of_same rfl rfl rfl (by simp [Host.fire, Trigger.fire, hr, Host.emit, Host.note]) rfl rfl

theorem hear (ht : h.trigger.reason.isSome) (es rest : List Exit) :
    Inert h (es.foldl Host.onExit { h with exits := rest }) := by
  obtain ⟨_, _, htrigger, heq⟩ := Host.foldl_onExit_eq es { h with exits := rest }
  rw [heq]
  exact of_same rfl rfl rfl (htrigger ht) rfl rfl

end Inert

theorem BootStep.inert (m : BootStep h h') (hp : h.coordinator.phase = .stopped) : Inert h h' := by
  cases m with
  | look => exact .refl h
  | tell _ => exact .emit h _
  | listen => exact .listen h
  | takePending hu | launch _ hu | judge _ hu _ | giveUp _ _ hu _ | hold _ hu | breakOff _ _ hu | run _ hu =>
    exact absurd hp hu.not_stopped

theorem WaitStep.inert (m : WaitStep h h') (ht : h.trigger.reason.isSome) : Inert h h' := by
  cases m with
  | look => exact .refl h
  | listen => exact .listen h
  | hear =>
    unfold Host.hearExit
    split
    · exact .refl h
    · next e rest he => exact .hear ht [e] rest
  | hearAll => exact (Inert.hear ht h.exits []).trans (.record _ rfl rfl rfl)

theorem StopStep.inert (m : StopStep G h h') (hp : h.coordinator.phase = .stopped) : Inert h h' := by
  cases m with
  | look => exact .refl h
  | tell _ => exact .emit h _
  | begin hg hup => rcases hup with hq | hq <;> rw [hp] at hq <;> cases hq
  | beside hq _ | takeStarted _ hq _ | finish _ hq _ _ => rw [hp] at hq; cases hq

theorem Step.inert (m : Step G h h') (s : Sound h) (hp : h.coordinator.phase = .stopped) : Inert h h' := by
  have ht : h.trigger.reason.isSome := s.triggered (.inr hp)
  cases m with
  | look => exact .refl h
  | tell _ => exact .emit h _
  | add r =>
    exact (Inert.of_same rfl rfl rfl rfl rfl rfl : Inert h ((h.emit _).modifyCoordinator _)).trans
      (.record _ rfl rfl rfl)
  | @fire reason _ => exact .fire ht reason
  | boot m => exact m.inert hp
  | wait m => exact m.inert ht
  | stop m => exact m.inert hp

/-- A coordinator that has stopped stays so. -/
theorem Onward.stopped (m : Onward h h') (s : Sound h) (s' : Sound h') (hp : h.coordinator.phase = .stopped) :
    h'.coordinator.published = h.coordinator.published ∧ h'.coordinator.phase = .stopped := by
  obtain ⟨more, he⟩ := m.published
  have hlast : Phase.stopped ∈ h.coordinator.published := hp ▸ List.mem_of_getLast? s.rises.last
  have hnil : more = [] := by
    refine List.eq_nil_iff_forall_not_mem.2 fun p hmem => ?_
    have hrising := s'.rises.rising
    rw [← he, List.pairwise_append] at hrising
    have hlt := hrising.2.2 _ hlast p hmem
    cases p <;> revert hlt <;> decide
  rw [hnil, List.append_nil] at he
  refine ⟨he.symm, ?_⟩
  have hl := s'.rises.last
  rw [← he, s.rises.last, hp] at hl
  exact (Option.some.inj hl).symm

/-- The terms of a call on a coordinator that has stopped. -/
abbrev inertTerms (E : Host → Host → Prop) : Terms :=
  { rely := E, guar := Inert, timely := True, panics := fun _ => False }

section
variable (hp : h.coordinator.phase = .stopped)
include hp

theorem meets_shutdown_refused (reason : StopReason) :
    (shutdown reason).Meets
      { rely := Move anyone, guar := StopStep G, timely := True, loops := False, panics := fun _ => False }
      (fun fs _ => fs = []) h := by
  refine meets_read.2 ⟨trivial, .look h, fun h₁ _ => ?_⟩
  rw [if_pos (.inr hp)]
  exact meets_update.2 ⟨trivial, .tell h₁ rfl, fun _ _ => ⟨trivial, rfl⟩⟩

variable (s : Sound h)
include s

theorem meets_inert {c : Terms} {Q : α → Host → Prop} {r : Routine α} (hrely : c.rely = Move anyone)
    (hguar : ∀ {a b}, c.guar a b → Step G a b) (m : r.Meets c Q h) :
    r.Meets { c with guar := Inert } (fun a h' => Q a h' ∧ Onward h h') h := by
  have hmove : ∀ {a b}, c.rely a b → Sound a → Sound b ∧ Onward a b := fun m s =>
    s.standing (.of_move (hrely ▸ m))
  have htick : ∀ {signals a b}, Tick signals a b → Sound a → Sound b ∧ Onward a b := fun m s =>
    s.standing (.of_tick m)
  have m' := m.tracks (R := fun a b => Sound a → Sound b ∧ Onward a b)
    (fun f f' s => ⟨(f' (f s).1).1, (f s).2.trans (f' (f s).1).2⟩) hmove (fun m => (hguar m).sound) htick
    fun s => ⟨s, .refl h⟩
  refine (m'.mono fun _ _ _ hq => ⟨hq.1, (hq.2 s).2⟩).weaken id (fun ha hstep => ?_) And.left id id fun _ => id
  obtain ⟨s', o⟩ := ha.2 s
  exact (hguar hstep).inert s' (o.stopped s s' hp).2

/-- A drain of a registry that is closed takes nothing. -/
theorem meets_drain_inert (d : Instant) :
    (drain d).Meets
      { rely := Move anyone, guar := Inert, timely := True, loops := False, panics := fun _ => False }
      (fun fs _ => fs = []) h := by
  have hclosed := Host.closeRegistry_of_closed (s.stopped hp).1
  refine meets_act.2 ⟨trivial, ?_, fun h' o => ?_⟩
  · rw [hclosed]
    exact .emit h _
  · rw [hclosed]
    exact ⟨trivial, rfl⟩

end

/-- What is called on a coordinator that has stopped. No step of it does anything any more. -/
structure Absorbs (h : Host) : Prop where
  startAll : startAll.Meets (inertTerms (Move anyone)) (fun result _ => result =
    match h.coordinator.bootFailure with
    | some name => .error (.alreadyFailed name)
    | none => .ok ()) h
  awaitStop : ∃ reason, h.trigger.reason = some reason ∧
    awaitStop.Meets (inertTerms (Move anyone)) (fun told _ => told = reason) h ∧
    Finishes (fun told _ => told = reason) awaitStop h
  shutdown : ∀ reason, (shutdown reason).Meets (inertTerms (Move anyone)) (fun fs _ => fs = []) h
  drain : ∀ d, (drain d).Meets (inertTerms (Move anyone)) (fun fs _ => fs = []) h
  trigger : ∀ reason, (h.fire reason).1 = false ∧ Inert h (h.fire reason).2
  register : ∀ a, (h.register a).1 = .error ⟨a.name⟩ ∧ Inert h (h.register a).2

theorem Sound.absorbs (s : Sound h) (hp : h.coordinator.phase = .stopped) : Absorbs h where
  startAll := by
    have hn : ¬ h.Unbooted := fun hu => hu.not_stopped hp
    have m := meets_inert (G := fun _ => False) hp s rfl Step.boot
      (meets_startAll_refused (E := Move anyone) id hn)
    exact (m.mono fun _ _ _ hq => hq.1).weaken id (fun _ => id) id id (fun _ => trivial) fun _ => id
  awaitStop := by
    obtain ⟨reason, hr⟩ := Option.isSome_iff_exists.1 (s.triggered (.inr hp))
    refine ⟨reason, hr, ?_, ?_⟩
    · have ends := meets_awaitStop_ends (E := Move anyone) (I := fun g => g.trigger.reason = some reason)
        Move.grows (fun m => m.grows.trigger reason) (fun m => (Standing.of_tick m).grows.trigger reason)
        (fun m => m.grows.trigger reason) hr
      refine (meets_inert (G := fun _ => False) hp s rfl Step.wait ends).mono ?_
      rintro told h' - ⟨⟨k, hk, hk', -⟩, -⟩
      exact Option.some.inj (hk'.symm.trans hk)
    · refine (finishes_awaitStop (by simp [Host.reasonHeard, hr])).mono fun told _ hq => ?_
      have heard := hq.1
      simp only [Host.reasonHeard, hr, Option.some_or, Option.some.injEq] at heard
      exact heard.symm
  shutdown reason := by
    have m := meets_inert (G := fun _ => False) hp s rfl Step.stop (meets_shutdown_refused hp reason)
    exact (m.mono fun _ _ _ hq => hq.1).weaken id (fun _ => id) id id (fun _ => trivial) fun _ => id
  drain d := (meets_drain_inert hp s d).weaken id (fun _ => id) id id (fun _ => trivial) fun _ => id
  trigger reason := by
    have ht := s.triggered (.inr hp)
    obtain ⟨first, hr⟩ := Option.isSome_iff_exists.1 ht
    exact ⟨by simp [Host.fire, Trigger.fire, hr], .fire ht reason⟩
  register a := by
    have hclosed := (s.stopped hp).1
    refine ⟨Host.told_of_closed hclosed a, ?_⟩
    rw [Host.register_of_closed hclosed]
    exact .emit h _

/-- What is published, the trigger and the registry stay as they are. -/
structure Still (h h' : Host) : Prop where
  published : h'.coordinator.published = h.coordinator.published
  phase : h'.coordinator.phase = h.coordinator.phase
  trigger : h'.trigger.reason = h.trigger.reason
  registry : h'.registry = h.registry

/-- What a state is like that calls can reach. -/
structure Phased (h : Host) : Prop extends Sound h where
  published : h.coordinator.published.Sublist Phase.all
  onward : ∀ C h', Later (Move anyone) C h h' → Onward h h'
  fails : h.coordinator.bootFailure.isSome →
    ∀ C h', Later (Move anyone) C h h' → .running ∉ h'.coordinator.published
  absorbs : h.coordinator.phase = .stopped →
    ∀ C h', Later (Move anyone) C h h' → Still h h' ∧ Absorbs h'

/-- In every state that calls can reach, wherever they were dropped, the phases that were published rise
in their order, the trigger, the registry, the boot's failure and what is held agree with them, and
nothing is ever taken back; and a coordinator that has stopped absorbs whatever is called. -/
theorem phases_rise_and_the_last_absorbs (hf : h₀.Fresh) (hl : Later (Move anyone) C h₀ h) : Phased h := by
  obtain ⟨s, -⟩ := Later.sound id hl hf.sound
  refine ⟨s, Phase.sublist_all s.rises.rising, fun C h' l => (l.sound id s).2, fun hb C h' l => ?_,
    fun hp C h' l => ?_⟩
  · obtain ⟨s', o⟩ := l.sound id s
    obtain ⟨name, hn⟩ := Option.isSome_iff_exists.1 hb
    exact s'.failed (by rw [o.bootFailure name hn]; rfl)
  · obtain ⟨s', o⟩ := l.sound id s
    obtain ⟨hpublished, hp'⟩ := o.stopped s s' hp
    obtain ⟨reason, hr⟩ := Option.isSome_iff_exists.1 (s.triggered (.inr hp))
    refine ⟨⟨hpublished, by rw [hp', hp], ?_, o.grows.registry (s.stopped hp).1⟩, s'.absorbs hp'⟩
    rw [hr, o.grows.trigger reason hr]

/-- A coordinator that was shut down absorbs whatever is called. -/
theorem stopped_coordinator_absorbs : ∃ h₀ h : Host, h₀.Fresh ∧ Later (Move anyone) (fun _ => True) h₀ h ∧
    h.coordinator.phase = .stopped ∧ h.trigger.reason = some .requested ∧ Absorbs h := by
  obtain ⟨h₀, h, hf, hrun, hp, hr⟩ : ∃ h₀ h : Host, h₀.Fresh ∧
      Run (Move anyone) (Call.shutdown .requested).routine h₀ (.returned ()) h ∧
      h.coordinator.phase = .stopped ∧ h.trigger.reason = some .requested := by
    refine ⟨{ coordinator := { config := { handleSignals := false } } }, ?_, ⟨rfl, rfl, rfl, rfl, rfl⟩, ?run, ?_, ?_⟩
    case run =>
      iterate 8 apply Run.step .refl
      exact .done _ _
    · rfl
    · rfl
  have hl : Later (Move anyone) (fun _ => True) h₀ h := .single (.inr ⟨.shutdown .requested, _, trivial, hrun⟩)
  exact ⟨h₀, h, hf, hl, hp, hr, ((phases_rise_and_the_last_absorbs hf hl).absorbs hp (fun _ => True) h .refl).2⟩

end ServiceHost.Lifecycle
