import ServiceHost.Proofs.Lifecycle.Attempts

/-! Every step that a coordinator takes, with what is known when it is taken. A call is made of such
steps, and what each of them keeps is kept by any sequence of calls, whether they come to their end, panic
or are dropped on the way. -/

namespace ServiceHost.Lifecycle

open Relation Routine

variable {α : Type} {E : Host → Host → Prop} {D : Instant → Prop} {G : StopReason → Prop} {h h' h'' : Host}

/-- A step of a wait for a reason to stop. -/
inductive WaitStep : Host → Host → Prop where
  | look (h : Host) : WaitStep h h
  | listen (h : Host) : WaitStep h (listen h)
  | hear (h : Host) : WaitStep h h.hearExit
  | hearAll (h : Host) : WaitStep h (h.hearExits.record .waited)

theorem takes_awaitStop : awaitStop.Takes WaitStep := by
  refine Takes.bind (Takes.update .listen) fun _ => ⟨fun i h => ?_, fun _ => ?_⟩
  · dsimp only
    split
    · exact .look h
    · exact .hear h
  · exact Takes.bind (Takes.read .look _) fun _ => Takes.bind (Takes.update .hearAll) fun _ => .pure _

theorem WaitStep.grows (m : WaitStep h h') : h.Grows h' := by
  cases m with
  | look => exact .refl h
  | listen => exact (leaves_listen h).grows
  | hear => exact (hears_hearExit (D := nobody) (P := True) h).leaves.grows
  | hearAll => exact (hears_hearExits (D := nobody) (P := True) h).leaves.grows.trans (Host.grows_record _ _)

/-- A wait ends in a state with a reason to stop, by hearing of what is queued then. Whatever the steps,
the others and the clock keep holds until then. -/
theorem meets_awaitStop_ends {I : Host → Prop} (hgrows : ∀ {a b}, E a b → a.Grows b)
    (hmove : ∀ {a b}, E a b → I a → I b) (htick : ∀ {signals a b}, Tick signals a b → I a → I b)
    (hstep : ∀ {a b}, WaitStep a b → I a → I b) (hI : I h) :
    awaitStop.Meets { rely := E, guar := WaitStep, timely := True, panics := fun _ => False }
      (fun reason h' => ∃ k, I k ∧ k.trigger.reason = some reason ∧
        Others E (k.hearExits.record .waited) h') h := by
  have hothers : ∀ {a b}, Others E a b → I a → I b := fun o => o.preserve hmove
  rw [awaitStop_eq]
  refine meets_update.2 ⟨trivial, .listen h, fun h₁ o₁ => ?_⟩
  refine ⟨trivial, fun _ => ⟨0, rfl, fun _ => rfl⟩, I, hothers o₁ (hstep (.listen h) hI), fun k₁ k hk w => ?_⟩
  have hk' : I k := w.preserve hmove htick hk
  refine ⟨trivial, fun i hi => ?_⟩
  rcases picks_standBy hi with ⟨rfl, ht⟩ | ⟨rfl, -⟩
  · obtain ⟨reason, hr⟩ := Option.isSome_iff_exists.1 ht
    have hkept : ∀ {a b}, Others E a b → a.trigger.reason = some reason → b.trigger.reason = some reason :=
      fun o => o.preserve (K := (·.trigger.reason = some reason)) fun m => (hgrows m).trigger reason
    refine ⟨.look k, nofun, fun _ k₂ o₂ => ?_⟩
    have hr₂ : k₂.trigger.reason = some reason := hkept o₂ hr
    refine meets_read.2 ⟨trivial, .look k₂, fun k₃ o₃ => ?_⟩
    refine meets_update.2 ⟨trivial, .hearAll k₃, fun h' o => ⟨trivial, k₃, hothers o₃ (hothers o₂ hk'), ?_, o⟩⟩
    rw [hr₂]
    exact hkept o₃ hr₂
  · exact ⟨.hear k, fun _ => hstep (.hear k) hk', nofun⟩

theorem BootStep.grows (m : BootStep h h') : h.Grows h' := by
  have g : ∀ t, h.Grows (h.abort t) := fun t => h.grows_finish t _
  cases m with
  | look => exact .refl h
  | tell _ => exact h.grows_note _
  | listen => exact (leaves_listen h).grows
  | launch r _ => exact (h.grows_spawn _).trans (Host.grows_record _ _)
  | giveUp t o _ _ => exact (g t).trans (.of_same rfl rfl rfl rfl List.prefix_rfl)
  | takePending _ | judge _ _ _ => exact .of_same rfl rfl rfl rfl List.prefix_rfl
  | hold _ _ | breakOff _ _ _ | run _ _ => exact .of_same rfl rfl rfl rfl (List.prefix_append ..)

/-! ## The shutdown -/

/-- A step of a shutdown for one of the reasons in `G`. What is not one of these leaves the coordinator's
records alone. -/
inductive StopStep (G : StopReason → Prop) : Host → Host → Prop where
  | look (h : Host) : StopStep G h h
  | tell (h : Host) {e : Event} : e.triggerCall? = none → StopStep G h (h.emit e)
  | begin (h : Host) {reason : StopReason} : G reason → h.IsUp → StopStep G h (beginShutdown reason h).2
  | beside {h h' : Host} : h.coordinator.phase = .shuttingDown → Beside h h' → StopStep G h h'
  | takeStarted (h : Host) (drained : Failures) : h.coordinator.phase = .shuttingDown →
      h.registry.closed = true → StopStep G h (takeStarted drained h).2
  | finish (h : Host) (failures : Failures) : h.coordinator.phase = .shuttingDown →
      h.registry.closed = true → h.coordinator.started = [] → StopStep G h (endShutdown failures h)

theorem StopStep.grows (m : StopStep G h h') : h.Grows h' := by
  cases m with
  | look => exact .refl h
  | tell _ => exact h.grows_note _
  | @begin reason _ _ => exact (keeps_beginShutdown (D := nobody) (P := True) h reason).grows
  | beside _ b => exact b.grows
  | takeStarted _ _ _ | finish _ _ _ _ => exact .of_same rfl rfl rfl rfl (List.prefix_append ..)

/-- Time went by while the coordinator's records were left alone. -/
structure Standing (h h' : Host) : Prop where
  coordinator : h'.coordinator = h.coordinator
  grows : h.Grows h'

namespace Standing

theorem refl (h : Host) : Standing h h := ⟨rfl, .refl h⟩

theorem trans (m : Standing h h') (m' : Standing h' h'') : Standing h h'' :=
  ⟨m'.coordinator.trans m.coordinator, m.grows.trans m'.grows⟩

theorem of_move (m : Move D h h') : Standing h h' := ⟨m.coordinator, m.grows⟩

theorem of_tick {signals : List Signal} (m : Tick signals h h') : Standing h h' := by
  refine ⟨?_, m.frame (D := fun _ => False) |>.grows⟩
  obtain ⟨t, -, -, rfl⟩ := m
  rfl

theorem of_beside (m : Beside h h') : Standing h h' := ⟨m.coordinator, m.grows⟩

end Standing

section
variable (hE : ∀ {a b}, E a b → Move anyone a b)
include hE

theorem Others.standing (o : Others E h h') : Standing h h' :=
  o.preserve (fun m s => s.trans (.of_move (hE m))) (.refl h)

/-- What is done outside leaves the coordinator's records alone. -/
theorem Outside.meets_standing {r : Routine α} (hr : Outside r) (h : Host) :
    r.Meets { rely := E, guar := Beside, always := Standing h } (fun _ h' => Standing h h') h :=
  (((Takes.meets (E := E) hr h).tracks (R := Standing) Standing.trans (fun m => .of_move (hE m))
    Standing.of_beside Standing.of_tick (.refl h)).mono fun _ _ _ hq => hq.2).weaken id (fun _ => id) And.right id id
    fun _ => id

/-- What is done outside while the coordinator shuts down. -/
theorem Outside.meets_stops {r : Routine α} (hr : Outside r) (hp : h.coordinator.phase = .shuttingDown) :
    r.Meets { rely := E, guar := StopStep G } (fun _ h' => Standing h h') h := by
  have hstep : ∀ {a b}, Standing h a → Beside a b → StopStep G a b := fun s m =>
    .beside (by rw [s.coordinator]; exact hp) m
  exact (hr.meets_standing hE h).weaken id hstep (fun _ => trivial) False.elim id fun _ => id

theorem meets_drain_stops {d : Instant} (hp : h.coordinator.phase = .shuttingDown) :
    (drain d).Meets { rely := E, guar := StopStep G }
      (fun _ h' => Standing h h' ∧ h'.registry.closed = true) h := by
  have s : Standing h h.closeRegistry.2 := .of_beside (.closeRegistry h)
  refine meets_act.2 ⟨trivial, .beside hp (.closeRegistry h), fun h₁ o₁ => ?_⟩
  have s₁ : Standing h h₁ := s.trans (o₁.standing hE)
  have hclosed : h₁.registry.closed = true := by
    rw [(o₁.standing hE).grows.registry h.closed_closeRegistry]
    exact h.closed_closeRegistry
  have hp₁ : h₁.coordinator.phase = .shuttingDown := by rw [s₁.coordinator]; exact hp
  have hrest := Outside.meets_stops (G := G) hE ((Outside.drain d).2 h) hp₁
  refine hrest.mono fun _ h' _ s' => ⟨s₁.trans s', ?_⟩
  rw [s'.grows.registry hclosed]
  exact hclosed

theorem meets_shutdown_steps {reason : StopReason} (hg : G reason) (h : Host) :
    (shutdown reason).Meets { rely := E, guar := StopStep G } (fun _ _ => True) h := by
  refine meets_read.2 ⟨trivial, .look h, fun h₁ o₁ => ?_⟩
  have hc₁ : h₁.coordinator = h.coordinator := (o₁.standing hE).coordinator
  split
  · exact meets_update.2 ⟨trivial, .tell h₁ rfl, fun _ _ => ⟨trivial, trivial⟩⟩
  · next hup =>
    refine meets_act.2 ⟨trivial, .begin h₁ hg (Host.isUp_of_not_down (by rwa [hc₁])), fun h₂ o₂ => ?_⟩
    have hp₂ : h₂.coordinator.phase = .shuttingDown := by rw [(o₂.standing hE).coordinator]; rfl
    refine (meets_drain_stops hE hp₂).andThen fun dfs h₃ _ ⟨s₃, hclosed⟩ => ?_
    have hp₃ : h₃.coordinator.phase = .shuttingDown := by rw [s₃.coordinator]; exact hp₂
    refine meets_act.2 ⟨trivial, .takeStarted h₃ dfs hp₃ hclosed, fun h₄ o₄ => ?_⟩
    have hc₄ : h₄.coordinator = { h₃.coordinator with started := [] } := (o₄.standing hE).coordinator
    have hclosed₄ : h₄.registry.closed = true := by
      rw [(o₄.standing hE).grows.registry hclosed]
      exact hclosed
    refine ((Outside.closeEach _ _).meets_stops hE (by rw [hc₄]; exact hp₃)).andThen fun cfs h₅ _ s₅ => ?_
    have hp₅ : h₅.coordinator.phase = .shuttingDown := by rw [s₅.coordinator, hc₄]; exact hp₃
    refine meets_act.2 ⟨trivial, .beside hp₅ (.reportExits h₅), fun h₆ o₆ => ?_⟩
    have s₆ : Standing h₄ h₆ := s₅.trans ((Standing.of_beside (.reportExits h₅)).trans (o₆.standing hE))
    refine meets_update.2 ⟨trivial, .finish h₆ _ ?_ ?_ ?_, fun _ _ => ⟨trivial, trivial⟩⟩
    · rw [s₆.coordinator, hc₄]
      exact hp₃
    · rw [s₆.grows.registry hclosed₄]
      exact hclosed₄
    · rw [s₆.coordinator, hc₄]

end

/-! ## Calls -/

/-- The reasons that a call may give the trigger, other than by hearing of an exit. -/
def Call.Gives : Call → StopReason → Prop
  | .trigger given, reason => reason = given
  | .shutdown given, reason => reason = given
  | .run, _ => True
  | _, _ => False

/-- A step of a call of the coordinator that may give the trigger the reasons in `G`. -/
inductive Step (G : StopReason → Prop) : Host → Host → Prop where
  | look (h : Host) : Step G h h
  | tell (h : Host) {e : Event} : e.triggerCall? = none → Step G h (h.emit e)
  | add (h : Host) (r : ResourceId) : Step G h (addResource r h)
  | fire (h : Host) {reason : StopReason} : G reason → Step G h (h.fire reason).2
  | boot {h h' : Host} : BootStep h h' → Step G h h'
  | wait {h h' : Host} : WaitStep h h' → Step G h h'
  | stop {h h' : Host} : StopStep G h h' → Step G h h'

theorem Step.grows (m : Step G h h') : h.Grows h' := by
  cases m with
  | look => exact .refl h
  | tell _ => exact h.grows_note _
  | add r => exact .of_same rfl rfl rfl rfl (List.prefix_append ..)
  | @fire reason _ => exact h.grows_fire reason
  | boot m => exact m.grows
  | wait m => exact m.grows
  | stop m => exact m.grows

/-- The terms of a call of which nothing is known but its steps. -/
abbrev stepTerms (E : Host → Host → Prop) (G : StopReason → Prop) : Terms := { rely := E, guar := Step G }

section
variable (hE : ∀ {a b}, E a b → Move anyone a b)
include hE

theorem meets_startAll_steps (h : Host) : startAll.Meets (stepTerms E G) (fun _ _ => True) h := by
  by_cases hu : h.Unbooted
  · exact ((meets_startAll_first hE hu).mono fun _ _ _ _ => trivial).weaken id (fun _ => .boot)
      (fun _ => trivial) (fun _ => trivial) (fun _ => trivial) fun _ => False.elim
  · exact ((meets_startAll_refused hE hu).mono fun _ _ _ _ => trivial).weaken id (fun _ => .boot)
      (fun _ => trivial) (fun _ => trivial) (fun _ => trivial) fun _ => False.elim

theorem meets_call_steps (c : Call) (h : Host) :
    c.routine.Meets (stepTerms E c.Gives) (fun _ _ => True) h := by
  have hwait : ∀ {G} h, awaitStop.Meets (stepTerms E G) (fun _ _ => True) h := fun h =>
    (takes_awaitStop.meets h).weaken id (fun _ => .wait) id id id fun _ => id
  have hstop : ∀ {G : StopReason → Prop} {reason} h, G reason →
      (shutdown reason).Meets (stepTerms E G) (fun _ _ => True) h := fun h hg =>
    (meets_shutdown_steps hE hg h).weaken id (fun _ => .stop) id id id fun _ => id
  have hend : ∀ {α : Type} {G} (a : α) h, (pure a : Routine α).Meets (stepTerms E G) (fun _ _ => True) h :=
    fun _ _ => ⟨trivial, trivial⟩
  cases c with
  | add r => exact meets_update.2 ⟨trivial, .add h r, fun _ _ => ⟨trivial, trivial⟩⟩
  | trigger reason => exact meets_update.2 ⟨trivial, .fire h rfl, fun _ _ => ⟨trivial, trivial⟩⟩
  | startAll => exact (meets_startAll_steps hE h).andThen fun _ h' _ _ => hend () h'
  | awaitStop => exact (hwait h).andThen fun _ h' _ _ => hend () h'
  | shutdown reason =>
    have hg : (Call.shutdown reason).Gives reason := rfl
    exact (hstop h hg).andThen fun _ h' _ _ => hend () h'
  | run =>
    refine Meets.andThen (R := fun _ _ => True) ?_ fun _ h' _ _ => hend () h'
    refine (meets_startAll_steps hE h).andThen fun result h₁ _ _ => ?_
    cases result with
    | error e =>
      refine meets_read.2 ⟨trivial, .look h₁, fun h₂ _ => (hstop h₂ trivial).andThen fun fs h₃ _ _ => ?_⟩
      split
      · exact meets_update.2 ⟨trivial, .tell h₃ rfl, fun h₄ _ => hend _ h₄⟩
      · exact hend _ h₃
    | ok u =>
      refine (hwait h₁).andThen fun reason h₂ _ _ => (hstop h₂ trivial).andThen fun fs h₃ _ _ => ?_
      refine meets_read.2 ⟨trivial, .look h₃, fun h₄ _ => ?_⟩
      split
      · exact hend _ h₄
      · exact hend _ h₄

end

/-- From `h` to `h'` some of the calls in `C` were made, one after another. Each came to its end or
panicked, or was dropped on the way; between two of them others move and time passes. -/
def Later (E : Host → Host → Prop) (C : Call → Prop) : Host → Host → Prop :=
  ReflTransGen fun a b => Waits E [] a b ∨ ∃ c out, C c ∧ Run E c.routine a out b

/-- What the moves of the others, the ticks of the clock and the steps of the coordinator do to the host,
any sequence of calls does. -/
theorem Later.tracks {C : Call → Prop} {R : Host → Host → Prop} (hE : ∀ {a b}, E a b → Move anyone a b)
    (hrefl : ∀ a, R a a) (htrans : ∀ {a b c}, R a b → R b c → R a c) (hmove : ∀ {a b}, E a b → R a b)
    (htick : ∀ {signals a b}, Tick signals a b → R a b)
    (hstep : ∀ {c a b}, C c → Step c.Gives a b → R a b) (l : Later E C h h') : R h h' := by
  induction l with
  | refl => exact hrefl h
  | @tail k _ _ m ih =>
    refine htrans ih ?_
    obtain w | ⟨c, out, hc, hrun⟩ := m
    · exact w.preserve (fun m hR => htrans hR (hmove m)) (fun m hR => htrans hR (htick m)) (hrefl k)
    · have m := (meets_call_steps hE c k).tracks (R := R) htrans hmove (hstep hc) htick (hrefl k)
      exact (m.of_run hrun).1.2

end ServiceHost.Lifecycle
