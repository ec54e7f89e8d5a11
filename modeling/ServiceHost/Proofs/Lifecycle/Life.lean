import ServiceHost.Proofs.Lifecycle.Hear
import ServiceHost.Proofs.Lifecycle.Shutdown

/-! A whole run, from its boot to the end of its shutdown, put together from the accounts of its parts. -/

namespace ServiceHost.Lifecycle

open Relation Routine

variable {D : Instant → Prop} {P : Prop} {h h' h'' g g' : Host}

theorem Boots.spares (b : Boots D P h h') : Spares D P h h' := by
  obtain ⟨_, -, k⟩ := b
  exact k.toSpares

theorem Waited.spares (w : Waited D P h h') : Spares D P h h' := by
  obtain ⟨g, m, -, o⟩ := w
  exact (m.toSpares.trans (Keeps.record g rfl).toSpares).trans o.keeps.toSpares

theorem Waited.started (w : Waited D P h h') : h'.coordinator.started = h.coordinator.started := by
  obtain ⟨g, m, -, o⟩ := w
  rw [o.frame.coordinator]
  exact m.leaves.started

theorem Waited.isUp (w : Waited D P h h') (hup : h.IsUp) : h'.IsUp := by
  obtain ⟨g, m, -, o⟩ := w
  have hp : h'.coordinator.phase = h.coordinator.phase := by
    rw [o.frame.coordinator]
    exact m.leaves.phase
  rwa [Host.IsUp, hp]

/-- What a boot leaves: the coordinator between two calls, and if it was the first the account of how it ended. -/
structure Booted (D : Instant → Prop) (P : Prop) (result : Except BootError Unit) (h h' : Host) : Prop where
  idle : Idle h'
  boots : Boots D P h h'
  first : h.coordinator.phase = .notStarted → h.coordinator.bootFailure = none → BootedBy result h'

theorem meets_startAll_booted (i : Idle h) :
    startAll.Meets (bootTerms D P) (fun result h' => Booted D P result h h') h := by
  have hpeers : ∀ {a b}, Peers D P a b → Boots D P a b := fun m => .of_keeps m.keeps
  have htick : ∀ {s a b}, Tick s a b → Boots D P a b := fun m => .of_keeps m.keeps
  have m := (meets_startAll (D := D) (P := P) i).tracks (R := Boots D P) Boots.trans hpeers id htick
    (Boots.refl h)
  exact (m.mono fun _ _ _ hq => ⟨hq.1.1, hq.2, hq.1.2⟩).weaken id (fun _ => id) (fun ha => ha.1) id id
    fun _ => id

/-- What a shutdown leaves, whether it was the first or not. -/
structure Downed (D : Instant → Prop) (P : Prop) (K : Host → Failures → Host → Prop) (h : Host)
    (failures : Failures) (h' : Host) : Prop where
  idle : Idle h'
  first : h.IsUp → ShutDown D P K h failures h'

/-- The result of a run whose boot succeeded: the first failure that was heard of, or else those of the
shutdown. -/
def runResult (failure : Option (String × ResourceError)) (failures : Failures) : Except RunError Unit :=
  match failure with
  | some (name, e) => .error (.resourceFailed name e)
  | none => (Failures.toExcept failures).mapError .shutdown

theorem runResult_eq_ok_iff {failure : Option (String × ResourceError)} {failures : Failures} :
    runResult failure failures = .ok () ↔ failure = none ∧ failures = [] := by
  cases failure with
  | none => cases failures <;> simp [runResult, Failures.toExcept, Except.mapError]
  | some x => simp [runResult]

/-- How a whole run came to its result. -/
inductive Lived (D : Instant → Prop) (P : Prop) (K : Host → Failures → Host → Prop) (h : Host) :
    Except RunError Unit → Host → Prop where
  | failed {e fs h₁ h₂ h₃ h'} : Booted D P (.error e) h h₁ → Others (Peers D P) h₁ h₂ →
      Downed D P K h₂ fs h₃ → Frame D [] [] h₃ h' → Lived D P K h (.error (.boot e)) h'
  | served {fs h₁ h₂ h₃ h'} : Booted D P (.ok ()) h h₁ → Waited D P h₁ h₂ →
      Downed D P K h₂ fs h₃ → Frame D [] [] h₃ h' →
      Lived D P K h (runResult h₃.coordinator.failure fs) h'

/-- The terms of a whole run. -/
abbrev runTerms (D : Instant → Prop) (P : Prop) : Terms :=
  { rely := Peers D P, always := Proper, timely := True, panics := fun h => P ∧ Idle h }

section
variable {K : Host → Failures → Host → Prop}

theorem meets_shutdown_downed (reason : StopReason) (i : Idle h) (hs : h.Steady P)
    (hK : ∀ g, Begun D P h g → (drain h.shutdownDeadline).Meets { rely := Peers D P } (K g) g) :
    (shutdown reason).Meets (runTerms D P) (fun fs h' => Downed D P K h fs h') h := by
  refine ((meets_shutdown reason i hs hK).mono fun fs h' ha hq => ?_).weaken id (fun _ => id)
    (fun ha => ha.1.toProper) id (fun _ => trivial) fun ha hp => ⟨hp, ha.1⟩
  exact ⟨ha.1, hq.2⟩

/-- A run is lived as `Lived` says. What is known of the drain of its shutdown, `K`, is passed on. -/
theorem meets_run (i : Idle h) (hs : h.Steady P)
    (hK : ∀ h₁ g, Spares D P h h₁ → Begun D P h₁ g →
      (drain h₁.shutdownDeadline).Meets { rely := Peers D P } (K g) g) :
    run.Meets (runTerms D P) (fun result h' => Idle h' ∧ Lived D P K h result h') h := by
  have hboot := (meets_startAll_booted (D := D) (P := P) i).weaken (k := runTerms D P) id
    (fun _ _ => trivial) id id (fun _ => trivial) fun _ => False.elim
  refine hboot.andThen ?_
  intro result h₁ _ b
  cases result with
  | error e =>
    refine meets_read.2 ⟨b.idle.toProper, trivial, ?_⟩
    intro h₂ o₂
    have i₂ : Idle h₂ := b.idle.leaves o₂.frame.leaves
    have s₂ : Spares D P h h₂ := b.boots.spares.trans o₂.keeps.toSpares
    have hdown := meets_shutdown_downed (D := D) (h₁.trigger.reason.getD (.failed e.resource)) i₂
      (s₂.steady hs) fun g => hK h₂ g s₂
    refine hdown.andThen ?_
    intro fs h₃ _ c
    split
    · refine meets_update.2 ⟨c.idle.toProper, trivial, ?_⟩
      intro h₄ o₄
      have f : Frame D [] [] h₃ h₄ := (Frame.emit h₃ _).trans o₄.frame
      exact ⟨(c.idle.leaves f.leaves).toProper, c.idle.leaves f.leaves, .failed b o₂ c f⟩
    · exact ⟨c.idle.toProper, c.idle, .failed b o₂ c (.refl h₃)⟩
  | ok u =>
    have hwait := (meets_awaitStop (D := D) (P := P) b.idle).weaken (k := runTerms D P) id
      (fun _ _ => trivial) id id (fun _ => trivial) fun _ => False.elim
    refine hwait.andThen ?_
    rintro reason h₂ _ ⟨i₂, w⟩
    have s₂ : Spares D P h h₂ := b.boots.spares.trans w.spares
    have hdown := meets_shutdown_downed (D := D) reason i₂ (s₂.steady hs) fun g => hK h₂ g s₂
    refine hdown.andThen ?_
    intro fs h₃ _ c
    refine meets_read.2 ⟨c.idle.toProper, trivial, ?_⟩
    intro h₄ o₄
    have i₄ : Idle h₄ := c.idle.leaves o₄.frame.leaves
    have l := Lived.served b w c o₄.frame
    split
    · next name e hf =>
      rw [hf] at l
      exact ⟨i₄.toProper, i₄, l⟩
    · next hf =>
      rw [hf] at l
      exact ⟨i₄.toProper, i₄, l⟩

end

end ServiceHost.Lifecycle
