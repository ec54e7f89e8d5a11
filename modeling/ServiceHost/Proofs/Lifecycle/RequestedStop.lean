import ServiceHost.Proofs.Lifecycle.Reason

/-! A start or a close that comes back closed was asked to stop. Wherever the coordinator hears of it, it
takes that for a success, but for one place: a start that comes back closed before it reported ends the
boot. -/

namespace ServiceHost.Lifecycle

open Relation Routine

variable {α : Type} {E : Host → Host → Prop} {D : Instant → Prop} {C : Call → Prop} {G P : StopReason → Prop}
  {h h₀ h' h'' : Host} {signals : List Signal} {fs : Failures}

/-! ## The recorded failure -/

/-- From `h` to `h'` the coordinator heard of some exits and kept the first failure among them. -/
structure HearsOf (h h' : Host) : Prop where
  grows : h.Grows h'
  failure : ∃ heard : List Exit, h'.coordinator.failure = h.coordinator.failure.or (heard.findSome? Exit.failure?)

namespace HearsOf

theorem of_nothing (g : h.Grows h') (hf : h'.coordinator.failure = h.coordinator.failure) : HearsOf h h' :=
  ⟨g, [], by rw [hf, List.findSome?_nil, Option.or_none]⟩

theorem of_harks (g : h.Grows h') (k : Harks h h') : HearsOf h h' := by
  obtain ⟨_, heard, -, -, hf⟩ := k
  exact ⟨g, heard, hf⟩

theorem refl (h : Host) : HearsOf h h := of_nothing (.refl h) rfl

theorem trans (m : HearsOf h h') (m' : HearsOf h' h'') : HearsOf h h'' := by
  obtain ⟨heard, hf⟩ := m.failure
  obtain ⟨heard', hf'⟩ := m'.failure
  exact ⟨m.grows.trans m'.grows, heard ++ heard', by rw [hf', hf, Option.or_assoc, List.findSome?_append]⟩

theorem of_standing (m : Standing h h') : HearsOf h h' := of_nothing m.grows (by rw [m.coordinator])

theorem of_tick (m : Tick signals h h') : HearsOf h h' := of_standing (.of_tick m)

end HearsOf

theorem StopStep.hearsOf (m : StopStep G h h') : HearsOf h h' := by
  have g : h.Grows h' := m.grows
  cases m with
  | beside _ b => exact .of_standing (.of_beside b)
  | _ => exact .of_nothing g rfl

theorem Step.hearsOf (m : Step G h h') : HearsOf h h' := by
  have g : h.Grows h' := m.grows
  cases m with
  | boot m => exact .of_harks g m.harks
  | wait m => exact .of_harks g m.harks
  | stop m => exact m.hearsOf
  | _ => exact .of_nothing g rfl

theorem Exit.failure?_eq_some {x : Exit} {name : String} {e : ResourceError} (hf : x.failure? = some (name, e)) :
    e ≠ .closed ∧ x = ⟨name, .error e⟩ := by
  unfold failure? at hf
  split at hf
  · cases hf
  · next err hr =>
    split at hf
    · cases hf
    · next hne =>
      cases hf
      exact ⟨hne, by rw [← hr]⟩

/-- The failure that is recorded is none of a resource that was asked to stop. -/
def Faultless (h : Host) : Prop := ∀ name, h.coordinator.failure ≠ some (name, .closed)

theorem Faultless.hearsOf (f : Faultless h) (m : HearsOf h h') : Faultless h' := by
  obtain ⟨heard, hf⟩ := m.failure
  intro name hc
  rw [hf] at hc
  cases hold : h.coordinator.failure with
  | some x =>
    rw [hold, Option.some_or] at hc
    exact f name (hold.trans hc)
  | none =>
    rw [hold, Option.none_or] at hc
    obtain ⟨e, -, he⟩ := List.exists_of_findSome?_eq_some hc
    exact (Exit.failure?_eq_some he).1 rfl

/-! ## The reason to stop -/

/-- A reason that is recorded was given from outside, or is the failure of a resource whose start had
reported ready and came back with an error other than closed. -/
def Grounded (P : StopReason → Prop) (h : Host) : Prop :=
  ∀ reason, h.trigger.reason = some reason → P reason ∨
    ∃ name e, reason = .failed name ∧ e ≠ .closed ∧ ⟨name, .error e⟩ ∈ h.arrivals

namespace Grounded

theorem given (r : Grounded P h) (g : h.Grows h')
    (hgiven : ∀ {reason}, h'.trigger.reason = some reason → h.trigger.reason = some reason ∨ P reason) :
    Grounded P h' := by
  intro reason hr
  rcases hgiven hr with hold | hnew
  · refine (r reason hold).imp_right ?_
    rintro ⟨name, e, hname, hne, hmem⟩
    exact ⟨name, e, hname, hne, Host.mem_arrivals.2 (g.mem_deeds (Host.mem_arrivals.1 hmem))⟩
  · exact .inl hnew

/-- The first exits in the queue are heard of. -/
theorem hear (r : Grounded P h) (s : Sound h) (a : Alert P h) {es rest : List Exit} (he : h.exits = es ++ rest) :
    Grounded P (es.foldl Host.onExit { h with exits := rest }) := by
  have harrivals : (es.foldl Host.onExit { h with exits := rest }).arrivals = h.arrivals := by
    obtain ⟨_, _, -, heq⟩ := Host.foldl_onExit_eq es { h with exits := rest }
    rw [heq]
    rfl
  intro reason hr
  rw [Host.foldl_onExit_trigger] at hr
  rw [harrivals]
  cases ht : h.trigger.reason with
  | some first =>
    rw [ht, Option.some_or, ← ht] at hr
    exact r reason hr
  | none =>
    -- Nothing was triggered, so no shutdown has taken exits from the queue unheard.
    obtain ⟨heard, ha, -⟩ := a.attentive (s.isUp ht)
    rw [ht, Option.none_or, Option.map_eq_some_iff] at hr
    obtain ⟨⟨name, e⟩, hf, rfl⟩ := hr
    obtain ⟨x, hx, hxf⟩ := List.exists_of_findSome?_eq_some hf
    obtain ⟨hne, rfl⟩ := Exit.failure?_eq_some hxf
    exact .inr ⟨name, e, rfl, hne, by rw [ha, he]; simp [hx]⟩

theorem wait (r : Grounded P h) (s : Sound h) (a : Alert P h) (m : WaitStep h h') : Grounded P h' := by
  cases m with
  | look => exact r
  | listen => exact r.given (leaves_listen h).grows (BootStep.listen h).candid.given
  | hear =>
    unfold Host.hearExit
    split
    · exact r
    · next e rest he =>
      have hfirst : h.exits = [e] ++ rest := he
      exact r.hear s a hfirst
  | hearAll =>
    have r' : Grounded P h.hearExits := r.hear s a (List.append_nil _).symm
    exact r'.given (Host.grows_record _ _) .inl

theorem step (r : Grounded P h) (s : Sound h) (a : Alert P h) (hG : ∀ {reason}, G reason → P reason)
    (m : Step G h h') : Grounded P h' := by
  have g : h.Grows h' := m.grows
  cases m with
  | look => exact r
  | tell _ => exact r.given g .inl
  | add _ => exact r.given g .inl
  | fire hg => exact r.given g fun hr => ((Candid.fire h hg).given hr).imp_right hG
  | boot m => exact r.given g m.candid.given
  | wait m => exact r.wait s a m
  | stop m => exact r.given g fun hr => (m.given s hr).imp_right hG

end Grounded

/-- Whatever is called, as long as the reasons given are in `P`. -/
theorem Later.grounded (hC : ∀ c, C c → ∀ reason, c.Gives reason → P reason) (l : Later (Callers P) C h h')
    (s : Sound h) (a : Alert P h) (r : Grounded P h) : Grounded P h' :=
  (l.tracks (R := fun a b => Sound a ∧ Alert P a ∧ Grounded P a → Sound b ∧ Alert P b ∧ Grounded P b) And.left
    (fun _ => id) (fun f f' q => f' (f q))
    (fun m ⟨s, a, r⟩ => ⟨(s.standing (.of_move m.1)).1, a.callers m, r.given m.1.grows m.2.given⟩)
    (fun m ⟨s, a, r⟩ => ⟨(s.standing (.of_tick m)).1, a.tick m, r.given (Standing.of_tick m).grows fun hr => by
      obtain ⟨_, -, -, rfl⟩ := m
      exact .inl hr⟩)
    (fun hc m ⟨s, a, r⟩ => ⟨(m.sound s).1, a.step (hC _ hc _) s m, r.step s a (hC _ hc _) m⟩) ⟨s, a, r⟩).2.2

/-! ## What the calls tell -/

/-- A start of the coordinator came back closed before it had reported. -/
def Host.ClosedUnready (h : Host) (t : TaskId) : Prop :=
  (∃ r, h.job? t = some (.start r .coordinator)) ∧ h.readiness t = some (.error .closed) ∧
    .came t (.error .closed) ∈ h.deeds

theorem Host.ClosedUnready.grows {t : TaskId} (c : h.ClosedUnready t) (g : h.Grows h') : h'.ClosedUnready t := by
  obtain ⟨⟨r, hj⟩, hr, hc⟩ := c
  exact ⟨⟨r, g.job? hj⟩, g.readiness hr, g.mem_deeds hc⟩

/-- A boot that tells of closed tells of a start that had not reported. -/
def BootTells (result : Except BootError Unit) (h : Host) : Prop :=
  ∀ name, result = .error (.start name .closed) → ∃ t, h.ClosedUnready t

/-- Nothing in a list of failures is that a resource was closed. -/
def Failures.Spared (fs : Failures) : Prop := ∀ name, .failed name (.resource .closed) ∉ fs

/-- A shutdown tells of the failures of its drain, and of other failures, of which none is that a resource
was closed. -/
def StopTells (fs : Failures) (h : Host) : Prop :=
  fs = [] ∨ ∃ drained rest, fs = drained ++ rest ∧ .drained drained ∈ h.doings ∧ rest.Spared

/-- What a whole run tells. -/
def RunTells : Except RunError Unit → Host → Prop
  | .ok (), _ => True
  | .error (.boot e), h => BootTells (.error e) h
  | .error (.resourceFailed _ e), _ => e ≠ .closed
  | .error (.shutdown fs), h => StopTells fs h

namespace Failures.Spared

theorem nil : Spared [] := fun _ => List.not_mem_nil

theorem append {fs' : Failures} (s : fs.Spared) (s' : fs'.Spared) : Spared (fs ++ fs') := fun name hmem =>
  (List.mem_append.1 hmem).elim (s name) (s' name)

theorem singleton {x : CleanupError} (hx : ∀ name, x ≠ .failed name (.resource .closed)) : Spared [x] :=
  fun name hmem => hx name (List.mem_singleton.1 hmem).symm

end Failures.Spared

theorem spared_exitFailures (es : List Exit) : Failures.Spared (es.flatMap exitFailures) := by
  intro name hmem
  obtain ⟨e, -, he⟩ := List.mem_flatMap.1 hmem
  unfold exitFailures at he
  split at he
  · cases he
  · cases he
  · next err hne hr =>
    cases List.mem_singleton.1 he
    exact hne rfl

theorem meets_any (r : Routine α) (h : Host) : r.Meets { rely := E } (fun _ _ => True) h :=
  (meets_run_of r h).mono fun _ _ _ _ => trivial

/-- The terms of someone of whom nothing is known but what it tells. -/
abbrev tellTerms (E : Host → Host → Prop) : Terms := { rely := E }

theorem meets_joinStart_spared (x : Started) (name : String) (d : Instant) (h : Host) :
    (joinStart x name d).Meets (tellTerms E) (fun fs _ => fs.Spared) h := by
  refine meets_waitAny.2 ⟨False.elim, fun h₁ _ => ⟨trivial, fun i _ => ?_⟩⟩
  split
  · refine meets_read.2 ⟨trivial, trivial, fun h₂ _ => ?_⟩
    split
    · exact meets_update.2 ⟨trivial, trivial, fun _ _ => ⟨trivial, .nil⟩⟩
    · exact meets_update.2 ⟨trivial, trivial, fun _ _ => ⟨trivial, .singleton fun _ => nofun⟩⟩
    · exact ⟨trivial, .nil⟩
  · exact meets_update.2 ⟨trivial, trivial, fun _ _ => ⟨trivial, .singleton fun _ => nofun⟩⟩

theorem meets_closeResource_spared (x : Started) (d : Instant) (h : Host) :
    (closeResource x d).Meets (tellTerms E) (fun fs _ => fs.Spared) h := by
  refine meets_read.2 ⟨trivial, trivial, fun h₁ o₁ => meets_read.2 ⟨trivial, trivial, fun h₂ o₂ => ?_⟩⟩
  split
  · exact meets_update.2 ⟨trivial, trivial, fun _ _ => ⟨trivial, .singleton fun _ => nofun⟩⟩
  · refine meets_update.2 ⟨trivial, trivial, fun h₃ o₃ => (meets_any _ h₃).andThen fun result h₄ ha hr => ?_⟩
    refine meets_update.2 ⟨trivial, trivial, fun h₅ o₅ => ?_⟩
    split
    · exact meets_joinStart_spared x _ d h₅
    · exact meets_joinStart_spared x _ d h₅
    · next e hne =>
      refine meets_update.2 ⟨trivial, trivial, fun _ _ => ⟨trivial, .singleton ?_⟩⟩
      rintro name ⟨⟩
      exact hne rfl
    · exact meets_update.2 ⟨trivial, trivial, fun _ _ => ⟨trivial, .singleton fun _ => nofun⟩⟩

/-- By induction on the resources. -/
theorem meets_closeEach_spared (d : Instant) (xs : List Started) (h : Host) :
    (closeEach d xs).Meets (tellTerms E) (fun fs _ => fs.Spared) h := by
  induction xs generalizing h with
  | nil => exact ⟨trivial, .nil⟩
  | cons x rest ih =>
    refine (meets_closeResource_spared x d h).andThen fun first h₁ _ hfirst => ?_
    refine meets_update.2 ⟨trivial, trivial, fun h₂ _ => (ih h₂).andThen fun others h₃ _ hothers => ?_⟩
    exact ⟨trivial, hfirst.append hothers⟩

section
variable (hE : ∀ {a b}, E a b → Move anyone a b)
include hE

theorem meets_startAll_tells (h : Host) : startAll.Meets (tellTerms E) BootTells h := by
  by_cases hu : h.Unbooted
  · refine ((meets_startAll_first hE hu).mono ?_).weaken id (fun _ _ => trivial) id False.elim (fun _ => trivial)
      fun _ => False.elim
    rintro result h' - hboot name rfl
    cases hboot with
    | brokeOff _ hg _ =>
      cases hg with
      | attempted a f =>
        cases f with
        | failed hr hc =>
          have hj : _ = some (Job.start _ Audience.coordinator) := congrArg (Option.map Task.job) a.fresh
          exact ⟨_, ⟨_, a.after.job? (a.meanwhile.job? hj)⟩, a.after.readiness hr, a.after.mem_deeds hc⟩
  · refine ((meets_startAll_refused hE hu).mono ?_).weaken id (fun _ _ => trivial) id False.elim (fun _ => trivial)
      fun _ => False.elim
    rintro result h' - hq name rfl
    split at hq <;> cases hq

theorem meets_shutdown_tells (reason : StopReason) (h : Host) :
    (shutdown reason).Meets (tellTerms E) StopTells h := by
  refine meets_read.2 ⟨trivial, trivial, fun h₁ _ => ?_⟩
  split
  · exact meets_update.2 ⟨trivial, trivial, fun _ _ => ⟨trivial, .inl rfl⟩⟩
  · refine meets_act.2 ⟨trivial, trivial, fun h₂ _ => (meets_any _ h₂).andThen fun drained h₃ _ _ => ?_⟩
    refine meets_act.2 ⟨trivial, trivial, fun h₄ o₄ => ?_⟩
    have hmem : .drained drained ∈ h₄.doings := by
      refine (o₄.standing hE).grows.mem_doings ?_
      rw [takeStarted, Host.doings_record _ rfl]
      exact List.mem_append_right _ List.mem_cons_self
    have hclose : ∀ d xs, (closeEach d xs).Meets (tellTerms E) (fun fs h' => Standing h₄ h' ∧ fs.Spared) h₄ :=
      fun d xs => (((Outside.closeEach d xs).meets_standing hE h₄).and (meets_closeEach_spared d xs h₄) id).weaken
        id (fun _ _ => trivial) (fun _ => trivial) False.elim (fun _ => trivial) fun _ _ => trivial
    refine (hclose _ _).andThen fun closed h₅ _ ⟨s₅, hclosed⟩ => ?_
    refine meets_act.2 ⟨trivial, trivial, fun h₆ o₆ => meets_update.2 ⟨trivial, trivial, fun h' o' => ⟨trivial, ?_⟩⟩⟩
    have g₆ : h₄.Grows h₆ := s₅.grows.trans ((leaves_reportExits h₅).grows.trans (o₆.standing hE).grows)
    have gend : ∀ failures, h₆.Grows (endShutdown failures h₆) := fun _ =>
      .of_same rfl rfl rfl rfl (List.prefix_append ..)
    have g : h₄.Grows h' := g₆.trans ((gend _).trans (o'.standing hE).grows)
    exact .inr ⟨drained, _, List.append_assoc .., g.mem_doings hmem, hclosed.append (spared_exitFailures _)⟩

/-- What a routine tells, with what its steps do to the recorded failure. -/
theorem meets_hearsOf {r : Routine α} {Q Q' : α → Host → Prop} (m : r.Meets (tellTerms E) Q h)
    (steps : r.Meets (stepTerms E G) Q' h) : r.Meets (tellTerms E) (fun a h' => Q a h' ∧ HearsOf h h') h := by
  have k := steps.tracks (R := HearsOf) HearsOf.trans (fun m => .of_standing (.of_move (hE m))) Step.hearsOf
    .of_tick (.refl h)
  exact ((m.and k id).mono fun _ _ _ hq => ⟨hq.1, hq.2.2⟩).weaken id (fun _ _ => trivial) (fun _ => trivial) id
    (fun _ => trivial) fun _ _ => trivial

theorem meets_run_tells (f : Faultless h) : run.Meets (tellTerms E) RunTells h := by
  have hstop : ∀ reason k, (shutdown reason).Meets (tellTerms E) (fun fs k' => StopTells fs k' ∧ HearsOf k k') k :=
    fun reason k => meets_hearsOf hE (meets_shutdown_tells hE reason k)
      ((meets_shutdown_steps (G := anyReason) hE trivial k).weaken id (fun _ => Step.stop) id id id fun _ => id)
  have hothers : ∀ {a b}, Others E a b → a.Grows b := fun o => (o.standing hE).grows
  refine (meets_hearsOf hE (meets_startAll_tells hE h)
    (meets_startAll_steps (G := anyReason) hE h)).andThen fun result h₁ _ ⟨hb, m₁⟩ => ?_
  cases result with
  | error e =>
    refine meets_read.2 ⟨trivial, trivial, fun h₂ o₂ => (hstop _ h₂).andThen fun fs h₃ _ ⟨_, m₃⟩ => ?_⟩
    have htells : ∀ {k}, h₃.Grows k → BootTells (.error e) k := fun g name he => by
      obtain ⟨t, c⟩ := hb name he
      exact ⟨t, c.grows ((hothers o₂).trans (m₃.grows.trans g))⟩
    split
    · exact meets_update.2 ⟨trivial, trivial, fun h₄ o₄ => ⟨trivial, htells ((h₃.grows_note _).trans (hothers o₄))⟩⟩
    · exact ⟨trivial, htells (.refl h₃)⟩
  | ok u =>
    have hwait := meets_hearsOf hE (meets_any awaitStop h₁)
      ((takes_awaitStop.meets h₁).weaken id (fun _ => Step.wait (G := anyReason)) id id id fun _ => id)
    refine hwait.andThen fun reason h₂ _ ⟨_, m₂⟩ => (hstop reason h₂).andThen fun fs h₃ _ ⟨hs, m₃⟩ => ?_
    refine meets_read.2 ⟨trivial, trivial, fun h₄ o₄ => ?_⟩
    have f₃ : Faultless h₃ := f.hearsOf (m₁.trans (m₂.trans m₃))
    split
    · next name e hf =>
      refine ⟨trivial, ?_⟩
      rintro rfl
      exact f₃ name hf
    · refine ⟨trivial, ?_⟩
      cases fs with
      | nil => trivial
      | cons x rest =>
        refine hs.imp_right ?_
        rintro ⟨drained, others, he, hmem, hspared⟩
        exact ⟨drained, others, he, (hothers o₄).mem_doings hmem, hspared⟩

end

/-! ## The coordinator -/

/-- How a coordinator takes it, in a state that calls can reach, that a start or a close came back
closed. -/
structure TakesItWell (P : StopReason → Prop) (h : Host) : Prop where
  /-- It is not recorded as the failure. -/
  failure : Faultless h
  /-- It is no reason to stop. -/
  reason : Grounded P h
  /-- It does not end the wait for one. -/
  waits : h.trigger.reason = none → (∀ x ∈ h.arrivals, Clean x.result) →
    awaitStop.Meets { rely := fun g g' => Callers P g g' ∧ g'.Calm } (fun _ _ => False) h
  boots : startAll.Meets (tellTerms (Callers P)) BootTells h
  stops : ∀ reason, (shutdown reason).Meets (tellTerms (Callers P)) StopTells h
  runs : run.Meets (tellTerms (Callers P)) RunTells h

/-- Whatever was called before, wherever it was dropped, and however the others behave: a start or a close
that comes back closed is told of as a failure by nothing but a boot, and by that only when the start had
not reported. The reasons given by others are in `P`. -/
theorem closed_is_no_failure_but_of_a_boot (hf : h₀.Fresh) (hu : h₀.Uncalled)
    (hC : ∀ c, C c → ∀ reason, c.Gives reason → P reason) (hl : Later (Callers P) C h₀ h) : TakesItWell P h := by
  have hE : ∀ {a b}, Callers P a b → Move anyone a b := And.left
  have s₀ : Sound h₀ := hf.sound
  have a₀ : Alert P h₀ := hf.alert hu
  have a : Alert P h := Later.alert hC hl s₀ a₀
  have m : HearsOf h₀ h := hl.tracks hE HearsOf.refl HearsOf.trans (fun m => .of_standing (.of_move m.1)) .of_tick
    fun _ => Step.hearsOf
  have f : Faultless h := by
    refine Faultless.hearsOf (fun name hc => ?_) m
    rw [hf.coordinator] at hc
    cases hc
  have r₀ : Grounded P h₀ := fun reason hr => by
    rw [hu.1] at hr
    cases hr
  refine ⟨f, hl.grounded hC s₀ a₀ r₀, fun ht hclean => ?_, meets_startAll_tells hE h,
    fun reason => meets_shutdown_tells hE reason h, meets_run_tells hE f⟩
  have hup : h.IsUp := (hl.sound hE s₀).1.isUp ht
  exact meets_awaitStop_calm hup a ⟨ht, fun x hx => Exit.failure?_eq_none.2 (hclean x hx)⟩

/-- A resource, which was added. -/
def oneAdded : Host :=
  addResource 0 { coordinator := { config := { handleSignals := false } }, resources := [.scripted "s" {}] }

/-- Nobody triggers anything. -/
theorem exists_oneAdded : ∃ h₀ : Host, h₀.Fresh ∧ h₀.Uncalled ∧
    Later (Callers fun _ => False) (fun c => ∀ reason, ¬ c.Gives reason) h₀ oneAdded :=
  ⟨_, ⟨rfl, rfl, rfl, rfl, rfl⟩, ⟨rfl, rfl⟩,
    .single (.inr ⟨.add 0, .returned (), fun _ => id, .step .refl (.done _ _)⟩)⟩

/-- The resource comes up and is closed: nothing is triggered. -/
theorem closed_while_running : ∃ h₀ h : Host, h₀.Fresh ∧ h₀.Uncalled ∧
    Later (Callers fun _ => False) (fun c => ∀ reason, ¬ c.Gives reason) h₀ h ∧
    h.arrivals = [⟨"s", .error .closed⟩] ∧ h.trigger.reason = none ∧ TakesItWell (fun _ => False) h := by
  obtain ⟨h₀, hf, hu, hadded⟩ := exists_oneAdded
  obtain ⟨g, hboot, h, hcame, ha, ht⟩ : ∃ g : Host,
      Run (Callers fun _ => False) Call.startAll.routine oneAdded (.returned ()) g ∧
      ∃ h : Host, Callers (fun _ => False) g h ∧ h.arrivals = [⟨"s", .error .closed⟩] ∧ h.trigger.reason = none := by
    refine ⟨?_, ?boot, ?_⟩
    case boot =>
      iterate 11 apply Run.step .refl
      apply Run.wait (i := 0) (.single (.inl ⟨.ready _ 0, .of_same rfl rfl⟩)) ⟨_, rfl, rfl, fun _ => nofun⟩
      iterate 4 apply Run.step .refl
      exact .done _ _
    exact ⟨_, ⟨.comeBack (t := 0) (r := 0) _ (.error .closed) rfl rfl, .of_same rfl rfl⟩, rfl, rfl⟩
  have hl := (hadded.tail (.inr ⟨.startAll, _, fun _ => id, hboot⟩)).tail (.inl (.single (.inl hcame)))
  exact ⟨h₀, h, hf, hu, hl, ha, ht, closed_is_no_failure_but_of_a_boot hf hu (fun c hc reason => hc reason) hl⟩

/-- The resource is closed before it reports: the boot fails, and so does a run. -/
theorem closed_before_ready_fails : ∃ h₀ h h₁ h₂ : Host, h₀.Fresh ∧ h₀.Uncalled ∧
    Later (Callers fun _ => False) (fun c => ∀ reason, ¬ c.Gives reason) h₀ h ∧
    Run (Callers fun _ => False) startAll h (.returned (.error (.start "s" .closed))) h₁ ∧ h₁.ClosedUnready 0 ∧
    Run (Callers fun _ => False) run h (.returned (.error (.boot (.start "s" .closed)))) h₂ := by
  obtain ⟨h₀, hf, hu, hadded⟩ := exists_oneAdded
  refine ⟨h₀, oneAdded, ?_, ?_, hf, hu, hadded, ?boot, ?_, ?whole⟩
  case boot =>
    iterate 11 apply Run.step .refl
    apply Run.wait (i := 0)
      (.single (.inl ⟨.comeBack (t := 0) (r := 0) _ (.error .closed) rfl rfl, .of_same rfl rfl⟩))
      ⟨_, rfl, rfl, fun _ => nofun⟩
    iterate 3 apply Run.step .refl
    exact .done _ _
  case whole =>
    iterate 11 apply Run.step .refl
    apply Run.wait (i := 0)
      (.single (.inl ⟨.comeBack (t := 0) (r := 0) _ (.error .closed) rfl rfl, .of_same rfl rfl⟩))
      ⟨_, rfl, rfl, fun _ => nofun⟩
    iterate 12 apply Run.step .refl
    exact .done _ _
  exact ⟨⟨0, rfl⟩, rfl, List.mem_of_getElem? (i := 2) rfl⟩

end ServiceHost.Lifecycle
