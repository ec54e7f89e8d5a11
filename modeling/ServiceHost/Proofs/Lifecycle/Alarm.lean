import ServiceHost.Lifecycle.Scheduler
import ServiceHost.Proofs.Lifecycle.Account
import ServiceHost.Proofs.Lifecycle.Calls
import ServiceHost.Proofs.Lifecycle.Moments

/-! A running resource fails. Its exit is queued, and a coordinator that stands in its wait hears of it without
anybody's help: the wait goes on exactly when there is something to hear of that is a reason to stop. -/

namespace ServiceHost.Lifecycle

open Relation Routine

variable {E : Host → Host → Prop} {D : Instant → Prop} {P : Prop} {h h' h₁ g g' : Host}

/-! ## What there is to hear of -/

/-- The reason to stop, once the queued exits were heard of. -/
def Host.reasonHeard (h : Host) : Option StopReason :=
  h.trigger.reason.or ((h.exits.findSome? Exit.failure?).map fun f => .failed f.1)

/-- The first failure, once the queued exits were heard of. -/
def Host.failureHeard (h : Host) : Option (String × ResourceError) :=
  h.coordinator.failure.or (h.exits.findSome? Exit.failure?)

/-- A failing exit fires the trigger. -/
theorem Host.onExit_trigger (h : Host) (e : Exit) :
    (h.onExit e).trigger.reason = h.trigger.reason.or (e.failure?.map fun f => .failed f.1) := by
  unfold onExit
  split
  · next hr => simp [Exit.failure?, hr, Host.emit, Host.note]
  · next hr => simp [Exit.failure?, hr, Host.emit, Host.note]
  · next err hne hr =>
    have hf : e.failure? = some (e.resource, err) := by simpa [Exit.failure?, hr] using hne
    cases ht : h.trigger.reason <;>
      simp [hf, ht, Host.modifyCoordinator, Host.fire, Host.emit, Host.note, Trigger.fire]

/-- The first failing one of several exits does. By induction over them. -/
theorem Host.foldl_onExit_trigger (es : List Exit) (h : Host) : (es.foldl onExit h).trigger.reason =
    h.trigger.reason.or ((es.findSome? Exit.failure?).map fun f => .failed f.1) := by
  induction es generalizing h with
  | nil => simp
  | cons e rest ih =>
    rw [List.foldl_cons, ih, onExit_trigger, Option.or_assoc, List.findSome?_cons]
    cases e.failure? <;> rfl

theorem Host.onExit_failure (h : Host) (e : Exit) :
    (h.onExit e).coordinator.failure = h.coordinator.failure.or e.failure? := by
  obtain ⟨_, _, -, he⟩ := h.onExit_eq e
  rw [he]

theorem Host.onExit_exits (h : Host) (e : Exit) : (h.onExit e).exits = h.exits := by
  obtain ⟨_, _, -, he⟩ := h.onExit_eq e
  rw [he]

/-- Hearing of the first exit changes nothing about what there is to hear of. -/
theorem Host.reasonHeard_hearExit (h : Host) : h.hearExit.reasonHeard = h.reasonHeard := by
  unfold hearExit
  split
  · rfl
  · next e rest he =>
    rw [reasonHeard, onExit_trigger, onExit_exits, reasonHeard, he, List.findSome?_cons, Option.or_assoc]
    cases e.failure? <;> rfl

theorem Host.failureHeard_hearExit (h : Host) : h.hearExit.failureHeard = h.failureHeard := by
  unfold hearExit
  split
  · rfl
  · next e rest he =>
    rw [failureHeard, onExit_failure, onExit_exits, failureHeard, he, List.findSome?_cons, Option.or_assoc]
    cases e.failure? <;> rfl

theorem Host.failure_hearExits (h : Host) : h.hearExits.coordinator.failure = h.failureHeard := by
  obtain ⟨_, _, -, he⟩ := Host.foldl_onExit_eq h.exits { h with exits := [] }
  rw [hearExits, he]
  rfl

theorem Host.length_exits_hearExit (hne : h.exits ≠ []) : h.hearExit.exits.length < h.exits.length := by
  obtain ⟨e, rest, he⟩ := List.exists_cons_of_ne_nil hne
  rw [hearExit, he, onExit_exits, List.length_cons]
  exact Nat.lt_succ_self _

/-! ## The wait -/

/-- The coordinator stands in its wait for a reason to stop. -/
def standBy : Routine StopReason :=
  .serve [.triggered, .exitQueued] (fun i h => if i = 0 then (h, true) else (h.hearExit, false)) fun _ => do
    let reason ← read (·.trigger.reason)
    update fun h => h.hearExits.record .waited
    return reason.getD .requested

theorem awaitStop_eq : awaitStop = (listenForSignals >>= fun _ => standBy) := rfl

theorem picks_standBy {i : Nat} (hp : Picks [.triggered, .exitQueued] h i) :
    i = 0 ∧ h.trigger.reason.isSome ∨ i = 1 ∧ h.exits ≠ [] := by
  obtain ⟨s, hs, hholds, -⟩ := hp
  match i with
  | 0 => cases hs; exact .inl ⟨rfl, hholds⟩
  | 1 => cases hs; exact .inr ⟨rfl, by simpa [Signal.holds] using hholds⟩

theorem exists_picks_standBy (hr : h.reasonHeard.isSome) : ∃ i, Picks [.triggered, .exitQueued] h i := by
  apply exists_picks
  cases ht : h.trigger.reason with
  | some reason => exact ⟨.triggered, by simp, by simp [Signal.holds, Trigger.isTriggered, ht]⟩
  | none =>
    refine ⟨.exitQueued, by simp, ?_⟩
    cases he : h.exits with
    | nil => simp [Host.reasonHeard, ht, he] at hr
    | cons e rest => simp [Signal.holds, he]

/-- With a reason to hear of, the wait needs nobody else to come to its end. By induction on the queue. -/
theorem finishes_standBy (hr : h.reasonHeard.isSome) :
    Finishes (fun reason g => h.reasonHeard = some reason ∧ g.coordinator.failure = h.failureHeard) standBy h := by
  induction hn : h.exits.length using Nat.strongRecOn generalizing h with
  | ind n ih =>
    refine .serve (exists_picks_standBy hr) ?_ ?_
    · intro i hi hstay
      rcases picks_standBy hi with ⟨rfl, -⟩ | ⟨rfl, hne⟩
      · cases hstay
      · have hlt : h.hearExit.exits.length < n := hn ▸ Host.length_exits_hearExit hne
        rw [← h.reasonHeard_hearExit, ← h.failureHeard_hearExit]
        exact ih _ hlt (h.reasonHeard_hearExit ▸ hr) rfl
    · intro i hi hleave
      rcases picks_standBy hi with ⟨rfl, ht⟩ | ⟨rfl, -⟩
      · obtain ⟨reason, ht⟩ := Option.isSome_iff_exists.1 ht
        refine .step (.step (.done ⟨?_, h.failure_hearExits⟩))
        simp [Host.reasonHeard, ht]
      · cases hleave

theorem Host.reasonHeard_listen (h : Host) : (listen h).reasonHeard = h.reasonHeard := by
  unfold listen
  split <;> rfl

theorem Host.failureHeard_listen (h : Host) : (listen h).failureHeard = h.failureHeard := by
  unfold listen
  split <;> rfl

theorem finishes_awaitStop (hr : h.reasonHeard.isSome) :
    Finishes (fun reason g => h.reasonHeard = some reason ∧ g.coordinator.failure = h.failureHeard) awaitStop h := by
  rw [← h.reasonHeard_listen, ← h.failureHeard_listen]
  exact .step (finishes_standBy (h.reasonHeard_listen.symm ▸ hr))

/-- With no reason to hear of, the wait does not end by itself. -/
theorem meets_standBy_unheard (hr : h.reasonHeard = none) :
    standBy.Meets { rely := fun _ _ => False } (fun _ _ => False) h := by
  have htick : ∀ {s : List Signal} {a b : Host}, Tick s a b → a.reasonHeard = none → b.reasonHeard = none := by
    rintro s a _ ⟨t, -, -, rfl⟩
    exact id
  refine ⟨trivial, False.elim, fun k => k.reasonHeard = none, hr, ?_⟩
  intro k k' hk w
  have hk' : k'.reasonHeard = none := w.preserve (K := fun g => g.reasonHeard = none) False.elim htick hk
  refine ⟨trivial, fun i hi => ⟨trivial, fun hstay => ?_, fun hleave => ?_⟩⟩
  · rcases picks_standBy hi with ⟨rfl, -⟩ | ⟨rfl, -⟩
    · cases hstay
    · exact (Host.reasonHeard_hearExit k').trans hk'
  · rcases picks_standBy hi with ⟨rfl, ht⟩ | ⟨rfl, -⟩
    · obtain ⟨reason, ht⟩ := Option.isSome_iff_exists.1 ht
      simp [Host.reasonHeard, ht] at hk'
    · cases hleave

/-- A coordinator that waits, and has not yet noticed that it need not, stands by. -/
theorem eq_standBy {rest : Routine StopReason} (hr : Run E awaitStop h (.going rest) g)
    (hs : rest.signals ≠ []) : rest = standBy := by
  have hstand : ∀ {k k' q out}, Run E q k out k' → q = standBy → out = .going rest → rest = standBy := by
    intro k k' q out hr hq ho
    induction hr with
    | going q k => cases ho; exact hq
    | serving => cases ho; exact hq
    | handle _ _ _ _ ih => exact ih hq ho
    | leave _ _ _ _ hr =>
      cases hq
      subst ho
      cases hr with
      | going => exact absurd rfl hs
      | step _ hr =>
        cases hr with
        | going => exact absurd rfl hs
        | step _ hr =>
          cases hr
          exact absurd rfl hs
    | _ => cases hq
  rw [awaitStop_eq] at hr
  cases hr with
  | going => exact absurd rfl hs
  | step _ hr => exact hstand hr rfl rfl

/-! ## A run that waits -/

/-- A failure that was heard of has fired the trigger. -/
def Alerted (h : Host) : Prop := h.coordinator.failure.isSome → h.trigger.reason.isSome

theorem Alerted.keeps {l : List (Instant × Deed)} (a : Alerted h) (k : Keeps D P l h h') : Alerted h' := by
  intro hf
  obtain ⟨reason, ht⟩ := Option.isSome_iff_exists.1 (a (k.failure ▸ hf))
  rw [k.grows.trigger reason ht]
  rfl

theorem Alerted.onExit (a : Alerted h) (e : Exit) : Alerted (h.onExit e) := by
  revert a
  rw [Alerted, Alerted, h.onExit_failure, h.onExit_trigger]
  cases h.trigger.reason <;> cases h.coordinator.failure <;> cases e.failure? <;> simp

theorem Alerted.hearExit (a : Alerted h) : Alerted h.hearExit := by
  unfold Host.hearExit
  split
  · exact a
  · next e rest _ => exact Alerted.onExit (h := { h with exits := rest }) a e

theorem Alerted.hearExits (a : Alerted h) : Alerted h.hearExits := by
  have hfold : ∀ (es : List Exit) {k : Host}, Alerted k → Alerted (es.foldl Host.onExit k) := by
    intro es
    induction es with
    | nil => exact id
    | cons e rest ih => exact fun ha => ih (ha.onExit e)
  exact hfold h.exits a

theorem Alerted.failureHeard (a : Alerted h) (hr : h.reasonHeard = none) : h.failureHeard = none := by
  obtain ⟨ht, he⟩ := Option.or_eq_none_iff.1 hr
  have hf : h.coordinator.failure = none := by
    cases hc : h.coordinator.failure with
    | none => rfl
    | some f =>
      have := a (by simp [hc])
      simp [ht] at this
  simp [Host.failureHeard, hf, Option.map_eq_none_iff.1 he]

theorem meets_awaitStop_alerted (a : Alerted h) :
    awaitStop.Meets { rely := Peers D P, always := Alerted } (fun _ _ => True) h := by
  rw [awaitStop_eq]
  refine meets_update.2 ⟨a, trivial, fun h₁ o₁ => ?_⟩
  have a₁ : Alerted h₁ := (a.keeps (D := D) (P := P) (keeps_listen h)).keeps o₁.keeps
  refine ⟨trivial, False.elim, Alerted, a₁, fun h₂ h₃ a₂ w => ?_⟩
  have a₃ : Alerted h₃ := a₂.keeps w.keeps
  refine ⟨a₃, fun i hi => ⟨trivial, fun hstay => ?_, fun hleave h₄ o₄ => ?_⟩⟩
  · rcases picks_standBy hi with ⟨rfl, -⟩ | ⟨rfl, -⟩
    · cases hstay
    · exact a₃.hearExit
  · rcases picks_standBy hi with ⟨rfl, -⟩ | ⟨rfl, -⟩
    · have a₄ : Alerted h₄ := a₃.keeps o₄.keeps
      refine meets_read.2 ⟨a₄, trivial, fun h₅ o₅ => ?_⟩
      have a₅ : Alerted h₅ := a₄.keeps o₅.keeps
      refine meets_update.2 ⟨a₅, trivial, fun h₆ o₆ => ⟨?_, trivial⟩⟩
      exact Alerted.keeps (h := h₅.hearExits.record .waited) a₅.hearExits o₆.keeps
    · cases hleave

/-- What a run does once it was told to stop. -/
def stopAndTell (reason : StopReason) : Routine (Except RunError Unit) := do
  let failures ← shutdown reason
  match ← read (·.coordinator.failure) with
  | some (name, e) => return .error (.resourceFailed name e)
  | none => return (Failures.toExcept failures).mapError .shutdown

/-- A run whose boot is over waits. -/
theorem run_of_waiting {rest : Routine StopReason} (hboot : Run E startAll h (.returned (.ok ())) h₁)
    (hwait : Run E awaitStop h₁ (.going rest) g) : Run E run h (.going (rest >>= stopAndTell)) g :=
  hboot.andThen (hwait.before stopAndTell)

/-- The first failure that was heard of is what a run tells of once it has shut down. -/
theorem returns_stopAndTell {reason : StopReason} {f : String × ResourceError} (i : Idle h) (ht : h.Tame)
    (hup : h.IsUp) (hf : h.coordinator.failure = some f) :
    (stopAndTell reason).Returns (Peers D False) (fun _ => True) h (fun result h' =>
      result = .error (.resourceFailed f.1 f.2) ∧
        ∃ k, StoppedInTime D h k ∧ Others (Peers D False) k h') := by
  have hs : h.Steady False := .inr ht
  have hdrain : ∀ g, Begun D False h g →
      (drain h.shutdownDeadline).Meets { rely := Peers D False } (fun _ _ => True) g := fun g b => by
    obtain ⟨t, k⟩ := b.keeps
    exact meets_drain (k.steady hs)
  have m := (meets_shutdown (K := fun _ _ _ => True) reason i hs hdrain).weaken (k := timelyTerms D False fun _ => True)
    id (fun _ _ => trivial) (fun _ => trivial) id id fun _ => id
  refine m.andThen fun fs k _ hq => ?_
  have c := hq.2 hup
  refine meets_read.2 ⟨trivial, trivial, fun h' o => ?_⟩
  rw [c.failure, hf]
  exact ⟨trivial, rfl, k, c.inTime i hup, o⟩

/-! ## The start task -/

section
variable {t : TaskId} {r : ResourceId} {p : Payload}

/-- The task is left with what the start came back with, or panicked with. -/
theorem finishes_routine {j : Job} {rest : Routine (Except Payload (Except Cause Unit))}
    {q : Except Payload (Except Cause Unit)} (hr : Run E (j.body t).attempt h (.going rest) g)
    (hf : Finishes (fun q' k => q' = q ∧ k = h') rest g) :
    ∃ rest, Run E (j.routine t) h (.going rest) g ∧ Finishes (fun _ k => k = h'.finish t (match q with
      | .ok result => .returned result
      | .error p => .panicked p)) rest g := by
  refine ⟨_, hr.before _, hf.bind ?_⟩
  rintro q' k ⟨rfl, rfl⟩
  cases q' <;> exact .step (.done rfl)

/-- A panic in the start, once it was called, is caught: it is what the start came back with. -/
theorem exists_run_start_panicked (audience : Audience) (hcall : Run E (callStart t r) h (.returned ()) h₁)
    (hpanic : Run E (runStart t r) h₁ (.panicked p) g) :
    ∃ rest, Run E ((Job.start r audience).routine t) h (.going rest) g ∧
      Finishes (fun _ k => k =
        (g.settle t r audience (.error (ResourceError.ofPanic p))).finish t (.returned (.ok ()))) rest g := by
  obtain ⟨rest, hr, hf⟩ : ∃ rest, Run E ((Job.start r audience).body t).attempt h (.going rest) g ∧
      Finishes (fun q k => q = .ok (.ok ()) ∧ k = g.settle t r audience (.error (ResourceError.ofPanic p)))
        rest g := by
    simp only [Job.body, attempt_bind]
    exact ⟨_, hcall.attempt.andThen (hpanic.attempt.attempt.andThen (.going _ g)), .step (.done ⟨rfl, rfl⟩)⟩
  exact finishes_routine hr hf

/-- A panic in the call of the start is not. -/
theorem exists_run_call_panicked (audience : Audience) (hcall : Run E (callStart t r) h (.panicked p) g) :
    ∃ rest, Run E ((Job.start r audience).routine t) h (.going rest) g ∧
      Finishes (fun _ k => k = g.finish t (.panicked p)) rest g := by
  obtain ⟨rest, hr, hf⟩ : ∃ rest, Run E ((Job.start r audience).body t).attempt h (.going rest) g ∧
      Finishes (fun q k => q = .error p ∧ k = g) rest g := by
    simp only [Job.body, attempt_bind]
    exact ⟨_, hcall.attempt.andThen (.going _ g), .done ⟨rfl, rfl⟩⟩
  exact finishes_routine hr hf

/-! ## A panic while the coordinator waits -/

/-- The failure `f` is queued behind what there was to hear of in `g`. A coordinator that waited in `g`, or begins to
wait in `g'`, needs nobody else from then on: its wait returns, and then a run shuts down and tells of the first
failure. -/
structure Heeded (f : String × ResourceError) (g g' : Host) : Prop where
  reason : g'.reasonHeard = g.reasonHeard.or (some (.failed f.1))
  failure : g'.failureHeard = g.failureHeard.or (some f)
  waits : ∀ {E h rest}, Run E awaitStop h (.going rest) g → rest.signals ≠ [] →
    Finishes (fun reason k => g'.reasonHeard = some reason ∧ k.coordinator.failure = g'.failureHeard) rest g'
  later :
    Finishes (fun reason k => g'.reasonHeard = some reason ∧ k.coordinator.failure = g'.failureHeard) awaitStop g'
  runs : ∀ {D h h₁ rest}, Reached (Move anyone) h → h.Tame → h.coordinator.failure = none →
    Run (Peers D False) startAll h (.returned (.ok ())) h₁ → h₁.IsUp →
    Run (Peers D False) awaitStop h₁ (.going rest) g → rest.signals ≠ [] →
    Run (Peers D False) run h (.going (rest >>= stopAndTell)) g' ∧
      ∃ first, g'.failureHeard = some first ∧ (g.reasonHeard = none → first = f) ∧
        Finishes (fun reason k => (stopAndTell reason).Returns (Peers D False) (fun _ => True) k fun result k' =>
          result = .error (.resourceFailed first.1 first.2) ∧
            ∃ k₁, StoppedInTime D k k₁ ∧ Others (Peers D False) k₁ k') rest g'

theorem Heeded.of_queued {f : String × ResourceError} (m : ∀ D P, Peers D P g g')
    (hreason : g'.reasonHeard = g.reasonHeard.or (some (.failed f.1)))
    (hfailure : g'.failureHeard = g.failureHeard.or (some f)) : Heeded f g g' where
  reason := hreason
  failure := hfailure
  waits hr hs := by
    rw [eq_standBy hr hs]
    exact finishes_standBy (by simp [hreason])
  later := finishes_awaitStop (by simp [hreason])
  runs {D h h₁ rest} hr ht hf hboot hup hwait hs := by
    obtain rfl := eq_standBy hwait hs
    obtain ⟨first, hfirst⟩ : ∃ first, g'.failureHeard = some first := by
      cases hg : g.failureHeard <;> simp [hfailure, hg]
    have b : Booted D False (.ok ()) h h₁ :=
      ((meets_startAll_booted (D := D) (P := False) hr.idle).of_run hboot).2.1 _ rfl
    have a : Alerted g := by
      obtain ⟨l, -, k⟩ := b.boots
      have a₁ : Alerted h₁ := Alerted.keeps (by simp [Alerted, hf]) k
      exact ((meets_awaitStop_alerted a₁).of_run hwait).1
    have hwait' : Run (Peers D False) awaitStop h₁ (.going standBy) g' :=
      hwait.trans (.serving (.single (.inl (m D False))))
    refine ⟨run_of_waiting hboot hwait', first, hfirst, fun hn => ?_, ?_⟩
    · rw [hfailure, a.failureHeard hn] at hfirst
      exact (Option.some.inj hfirst).symm
    · have mwait : standBy.Meets (waitTerms D False) (fun _ k => Idle k ∧ Waited D False h₁ k) g' :=
        ((meets_awaitStop b.idle).of_run hwait').2.2.2 _ rfl
      refine ((finishes_standBy (by simp [hreason])).and_meets mwait).mono ?_
      rintro reason k ⟨⟨-, hk⟩, i, w⟩
      have hsteady : k.Steady False := (b.boots.spares.trans w.spares).steady (.inr ht)
      exact returns_stopAndTell i (hsteady.resolve_left id) (w.isUp hup) (hk.trans hfirst)

/-- A start that comes back with an error, after it had reported, is a failure to be heard of. -/
theorem heeded_comeBack {e : ResourceError} (hj : g.job? t = some (.start r .coordinator))
    (hready : (g.readiness t).isSome) (hn : g.isEnded t = false) (he : e ≠ .closed) :
    Heeded (g.resourceName r, e) g
      ((g.settle t r .coordinator (.error e)).finish t (.returned (.ok ()))) := by
  obtain ⟨q, hq⟩ := Option.isSome_iff_exists.1 hready
  obtain ⟨b, hb, hbq⟩ := Option.bind_eq_some_iff.1 hq
  have hsettle : g.settle t r .coordinator (.error e) =
      (g.record (.came t (.error e))).addExit .coordinator ⟨g.resourceName r, .error e⟩ :=
    Host.settle_of_reported hb hbq
  have hfail : Exit.failure? ⟨g.resourceName r, .error e⟩ = some (g.resourceName r, e) := by
    simp [Exit.failure?, he]
  refine .of_queued (fun D P => ⟨.comeBack g (.error e) hj hn, fun hs => hs.of_same ?_ ?_⟩) ?_ ?_
  · rw [Host.settle_only]; rfl
  · rw [Host.settle_only]; rfl
  · rw [hsettle]
    simp only [Host.reasonHeard, Host.finish, Host.modifyTask, Host.addExit, Host.record, List.findSome?_append,
      List.findSome?_singleton, hfail, Option.map_or, Option.or_assoc]
    rfl
  · rw [hsettle]
    simp only [Host.failureHeard, Host.finish, Host.modifyTask, Host.addExit, Host.record, List.findSome?_append,
      List.findSome?_singleton, hfail, Option.or_assoc]

/-- A coordinator that waits, with one resource, which is up. -/
theorem exists_run_waiting (s : Scripted) (hs : ∀ p, .panic p ∉ s.close) : ∃ h h₁ g : Host,
    Reached (Move anyone) h ∧ h.Tame ∧ h.coordinator.failure = none ∧
    Run (Peers nobody False) startAll h (.returned (.ok ())) h₁ ∧ h₁.IsUp ∧
    Run (Peers nobody False) awaitStop h₁ (.going standBy) g ∧ g.resourceName 0 = "s" ∧ g.reasonHeard = none ∧
    g.job? 0 = some (.start 0 .coordinator) ∧ g.readiness 0 = some (.ok ()) ∧ g.isEnded 0 = false := by
  have hfresh : Reached (Move anyone)
      { coordinator := { config := { handleSignals := false } }, resources := [.scripted "s" s] } :=
    .fresh _ ⟨rfl, rfl, rfl, rfl, rfl⟩
  have hadded := hfresh.called _ (.add 0) _ (.step .refl (.done _ _))
  refine ⟨_, ?_, ?_, hadded, ?_, rfl, ?boot, ?_, ?wait, ?_⟩
  case boot =>
    iterate 11 apply Run.step .refl
    apply Run.wait (i := 0) (.single (.inl ⟨.ready _ 0, fun ht => ht.of_same rfl rfl⟩))
      ⟨_, rfl, rfl, fun _ => nofun⟩
    iterate 4 apply Run.step .refl
    exact .done _ _
  case wait =>
    apply Run.step .refl
    exact .going _ _
  · exact Host.tame_of_one rfl rfl hs
  · exact .inr rfl
  · exact ⟨rfl, rfl, rfl, rfl, rfl⟩

/-- A start that was called and panics after it had reported ready is a failure of a running resource: a coordinator
that waits returns, and a run shuts down and tells of it, without anybody's help. -/
theorem panic_after_ready_stops_the_run (hcall : Run E (callStart t r) h (.returned ()) h₁)
    (hpanic : Run E (runStart t r) h₁ (.panicked p) g) (hj : g.job? t = some (.start r .coordinator))
    (hready : (g.readiness t).isSome) (hn : g.isEnded t = false) :
    ∃ rest, Run E ((Job.start r .coordinator).routine t) h (.going rest) g ∧
      Finishes (fun _ g' => Heeded (g.resourceName r, ResourceError.ofPanic p) g g') rest g := by
  obtain ⟨rest, hr, hf⟩ := exists_run_start_panicked .coordinator hcall hpanic
  refine ⟨rest, hr, hf.mono ?_⟩
  rintro - g' rfl
  exact heeded_comeBack hj hready hn nofun

end

/-- A resource comes up and panics while the coordinator waits: the run tells of it. -/
theorem panic_stops_a_run_of_one_resource : ∃ h k k₁ g h' : Host,
    Run (fun _ _ => True) (callStart 0 0) k (.returned ()) k₁ ∧
    Run (fun _ _ => True) (runStart 0 0) k₁ (.panicked (.text "x")) g ∧
    g.job? 0 = some (.start 0 .coordinator) ∧ (g.readiness 0).isSome ∧ g.isEnded 0 = false ∧
    Run (Peers nobody False) run h (.returned (.error (.resourceFailed "s" (.panicked "x")))) h' := by
  obtain ⟨h, h₁, g, hr, ht, hf, hboot, hup, hwait, hname, hreason, hj, hready, hn⟩ :=
    exists_run_waiting { start := [.ready, .panic (.text "x")] } nofun
  obtain ⟨k, hcall, hpanic⟩ : ∃ k, Run (fun _ _ => True) (callStart 0 0) k (.returned ()) k ∧
      Run (fun _ _ => True) (runStart 0 0) k (.panicked (.text "x")) g := by
    refine ⟨{ coordinator := { config := {} },
              resources := [.scripted "s" { start := [.ready, .panic (.text "x")] }] }, ?_, ?_⟩
    · exact .step .refl (.done _ _)
    · exact .step .refl (.step .refl (.step (.single trivial) (.panic _ g)))
  have hsome : (g.readiness 0).isSome := by simp [hready]
  obtain ⟨rest, -, hrest⟩ := panic_after_ready_stops_the_run hcall hpanic hj hsome hn
  obtain ⟨-, g', -, heeded⟩ := hrest.exists_run (E := fun _ _ => True)
  obtain ⟨hrun, first, -, hfirst, hleft⟩ := heeded.runs hr ht hf hboot hup hwait (List.cons_ne_nil _ _)
  obtain ⟨reason, k', hstop, htell⟩ := hleft.exists_run (E := Peers nobody False)
  obtain ⟨result, h', hend, rfl, -⟩ := htell.exists_run trivial (fun _ => id) False.elim
  rw [hfirst hreason, hname] at hend
  exact ⟨h, k, k, g, h', hcall, hpanic, hj, hsome, hn, hrun.trans (hstop.andThen hend)⟩

/-- A resource that panics while its start is called, after it had reported ready, leaves no exit, and the coordinator
waits for ever. -/
theorem panic_in_call_goes_unheard : ∃ h h₁ k g : Host, ∃ rest,
    Run (Peers nobody False) startAll h (.returned (.ok ())) h₁ ∧
    Run (Peers nobody False) awaitStop h₁ (.going standBy) g ∧ g.readiness 0 = some (.ok ()) ∧
    Run (fun _ _ => True) (callStart 0 0) k (.panicked (.text "x")) g ∧
    Run (fun _ _ => True) ((Job.start 0 .coordinator).routine 0) k (.going rest) g ∧
    Finishes (fun _ g' => g'.outcome? 0 = some (.panicked (.text "x")) ∧ g'.exits = g.exits ∧
      ∀ reason h', ¬ Run (fun _ _ => False) standBy g' (.returned reason) h') rest g := by
  obtain ⟨h, h₁, g, -, -, -, hboot, -, hwait, -, hreason, hj, hready, hn⟩ :=
    exists_run_waiting { prelude := [.ready, .panic (.text "x")] } nofun
  obtain ⟨k, hcall⟩ : ∃ k, Run (fun _ _ => True) (callStart 0 0) k (.panicked (.text "x")) g := by
    refine ⟨{ coordinator := { config := {} },
              resources := [.scripted "s" { prelude := [.ready, .panic (.text "x")] }] }, ?_⟩
    exact .step .refl (.step (.single trivial) (.panic _ g))
  obtain ⟨rest, hr, hf⟩ := exists_run_call_panicked .coordinator hcall
  refine ⟨h, h₁, k, g, rest, hboot, hwait, hready, hcall, hr, hf.mono ?_⟩
  rintro - g' rfl
  refine ⟨?_, rfl, fun reason h' hrun => ?_⟩
  · exact Host.outcome?_finish_self hj hn
  · have hunheard : (g.finish 0 (.panicked (.text "x"))).reasonHeard = none := hreason
    exact ((meets_standBy_unheard hunheard).of_run hrun).2.1 _ rfl

end ServiceHost.Lifecycle
