import ServiceHost.Proofs.Lifecycle.Calls
import ServiceHost.Proofs.Lifecycle.Late
import ServiceHost.Proofs.Lifecycle.Moments
import ServiceHost.Proofs.Lifecycle.Reckoning

/-! The report of a shutdown. Its failures are those of the drain, those of the closes in the order of the starts, and
those of the queued exits in the order of their arrival. Of the closes, those whose turn comes in time have at most
one failure each, and the others are skipped. -/

namespace ServiceHost.Lifecycle

open Relation Routine

variable {D : Instant → Prop} {P : Prop} {h h' h'' g : Host} {s : Started} {ss : List Started} {d : Instant}

/-! ## The turn of a resource -/

/-- The turn of a resource to be closed: the hosts when it came and when it was over, what was done, and the
failures that it adds. -/
structure CloseTurn where
  started : Started
  before : Host
  after : Host
  deeds : List (Instant × Deed)
  failures : Failures

namespace CloseTurn

def name (x : CloseTurn) : String := x.after.resourceName x.started.resource

def IsSkipped (x : CloseTurn) : Prop := x.failures = [.skipped x.name]

/-- Its close, or the wait for its start, was cut off. -/
def IsCut (x : CloseTurn) : Prop := x.failures = [.timedOut x.name]

/-- How the turn went, with the clock. -/
structure Holds (D : Instant → Prop) (P : Prop) (d : Instant) (x : CloseTurn) : Prop where
  verdict : Verdict x.after x.started d x.failures x.deeds
  closing : Closing D P d x.deeds [x.started.task] x.before x.after
  ended : x.after.isEnded x.started.task = true
  /-- It is skipped exactly when the deadline had passed before. -/
  skipped : x.IsSkipped ↔ d ≤ x.before.now
  inTime : ¬ x.IsSkipped → x.after.now ≤ d
  cut : x.IsCut → x.after.now = d
  /-- It adds nothing exactly when the close returned cleanly and the start came to its end without a panic. -/
  clean : x.failures = [] ↔ ∃ t u q v,
    x.deeds = [(t, .close x.started), (u, .closed x.started (some q))] ∧ Clean q ∧
      x.after.outcome? x.started.task = some (.returned v)

end CloseTurn

/-- A verdict that names a skipped resource names this one. -/
theorem Verdict.skipped_iff {fs : Failures} {l : List (Instant × Deed)} (v : Verdict h s d fs l) :
    fs = [.skipped (h.resourceName s.resource)] ↔ ∃ n, fs = [.skipped n] := by
  refine ⟨fun e => ⟨_, e⟩, ?_⟩
  rintro ⟨n, e⟩
  cases v <;> simp_all

theorem Verdict.clean_iff {fs : Failures} {l : List (Instant × Deed)} (v : Verdict h s d fs l) :
    fs = [] ↔ ∃ t u q v, l = [(t, .close s), (u, .closed s (some q))] ∧ Clean q ∧
      h.outcome? s.task = some (.returned v) := by
  constructor
  · rintro rfl
    cases v with
    | stopped _ hq ho => exact ⟨_, _, _, _, rfl, hq, ho⟩
  · rintro ⟨t, u, q, w, hl, hq, hw⟩
    exact v.eq_nil (by simp [hl]) hq hw

theorem CloseTurn.holds {fs : Failures} (ht : Tended D P s d h fs h') (o : OnTime d h fs h') :
    ∃ l, (CloseTurn.mk s h h' l fs).Holds D P d := by
  obtain ⟨l, v, c, he⟩ := ht
  have hskipped : fs = [.skipped (h'.resourceName s.resource)] ↔ d ≤ h.now := v.skipped_iff.trans o.skipped
  have hinTime : ¬ fs = [.skipped (h'.resourceName s.resource)] → h'.now ≤ d := by
    intro hn
    have hlt : h.now < d := Nat.lt_of_not_le fun hle => hn (hskipped.2 hle)
    rcases c.inTime with hle | heq
    · exact hle
    · rw [heq]
      exact Nat.le_of_lt hlt
  refine ⟨l, v, c, he, hskipped, hinTime, fun hcut => ?_, v.clean_iff⟩
  have hcut' : fs = [.timedOut (h'.resourceName s.resource)] := hcut
  refine Nat.le_antisymm (hinTime ?_) (o.timedOut _ hcut')
  rw [hcut']
  nofun

theorem meets_closeResource_turn (hj : h.job? s.task = some (.start s.resource .coordinator))
    (hs : h.Settling P) (hn : h.outcome? s.task ≠ some .aborted) :
    (closeResource s d).Meets (timelyTerms D P fun _ => True)
      (fun fs h' => ∃ l, (CloseTurn.mk s h h' l fs).Holds D P d) h := by
  have hlate : (closeResource s d).Meets { rely := Peers D P } (OnTime d h) h :=
    meets_closeResource_late (fun m => m.1.now) s
  exact (((meets_closeResource hj hs hn).and hlate id).mono fun fs h' _ hq =>
    CloseTurn.holds hq.1 hq.2).weaken id (fun _ _ => trivial) (fun _ => trivial) id (fun hl => hl.1)
    fun _ hp => hp.1

/-! ## One turn after another -/

/-- From `h` to `h'` the resources had these turns. -/
structure ClosedInTurn (D : Instant → Prop) (P : Prop) (d : Instant) (ss : List Started) (turns : List CloseTurn)
    (h : Host) (fs : Failures) (h' : Host) : Prop where
  resources : turns.map CloseTurn.started = ss
  failures : fs = turns.flatMap CloseTurn.failures
  holds : ∀ x ∈ turns, x.Holds D P d
  since : ∀ x ∈ turns, h.now ≤ x.before.now
  kept : ∀ x ∈ turns, x.after.Grows h'
  /-- The next turn comes when the last is over. -/
  inTurn : turns.Pairwise fun x y => x.after.now ≤ y.before.now
  closing : ∃ l, Closing D P d l (ss.map (·.task)) h h'

theorem CloseTurn.Holds.settled {fs : Failures} {l : List (Instant × Deed)} {h₁ h₂ : Host}
    (hx : (CloseTurn.mk s h h₁ l fs).Holds D P d)
    (o : Others (Peers D P) (h₁.record (.settled s)) h₂) :
    Closing D P d (l ++ [(h₁.now, .settled s)]) [s.task] h h₂ :=
  (hx.closing.record rfl (by rintro _ ⟨⟩) (by rintro _ ⟨⟩) (by rintro _ ⟨⟩; exact hx.ended)).others o

theorem ClosedInTurn.nil (hs : h.Settling P) : ClosedInTurn D P d [] [] h [] h where
  resources := rfl
  failures := rfl
  holds _ hx := absurd hx List.not_mem_nil
  since _ hx := absurd hx List.not_mem_nil
  kept _ hx := absurd hx List.not_mem_nil
  inTurn := .nil
  closing := ⟨[], .refl hs⟩

theorem ClosedInTurn.cons {rest : List Started} {turns : List CloseTurn} {fs fs' : Failures} {l : List (Instant × Deed)}
    {h₁ h₂ : Host} (hx : (CloseTurn.mk s h h₁ l fs).Holds D P d)
    (o : Others (Peers D P) (h₁.record (.settled s)) h₂) (c : ClosedInTurn D P d rest turns h₂ fs' h') :
    ClosedInTurn D P d (s :: rest) (⟨s, h, h₁, l, fs⟩ :: turns) h (fs ++ fs') h' := by
  obtain ⟨l', c'⟩ := c.closing
  have hsettled := hx.settled o
  have g₂ : h₁.Grows h₂ := (h₁.grows_record _).trans o.frame.grows
  exact
    { resources := congrArg (s :: ·) c.resources
      failures := congrArg (fs ++ ·) c.failures
      holds := fun y hy => by
        rcases List.mem_cons.1 hy with rfl | hy
        · exact hx
        · exact c.holds y hy
      since := fun y hy => by
        rcases List.mem_cons.1 hy with rfl | hy
        · exact Nat.le_refl _
        · exact Nat.le_trans hsettled.frame.grows.now (c.since y hy)
      kept := fun y hy => by
        rcases List.mem_cons.1 hy with rfl | hy
        · exact g₂.trans c'.frame.grows
        · exact c.kept y hy
      inTurn := List.pairwise_cons.2 ⟨fun y hy => Nat.le_trans g₂.now (c.since y hy), c.inTurn⟩
      closing := ⟨_, hsettled.trans c'⟩ }

theorem meets_closeEach_turns (hs : h.Settling P) (hc : Closable h ss) :
    (closeEach d ss).Meets (timelyTerms D P fun _ => True)
      (fun fs h' => ∃ turns, ClosedInTurn D P d ss turns h fs h') h := by
  induction ss generalizing h with
  | nil => exact ⟨trivial, [], .nil hs⟩
  | cons s rest ih =>
    have hj : h.job? s.task = some (.start s.resource .coordinator) := hc.starts s List.mem_cons_self
    refine (meets_closeResource_turn (d := d) hj hs (hc.alive s List.mem_cons_self)).andThen ?_
    rintro fs h₁ - ⟨l, hx⟩
    refine meets_update.2 ⟨trivial, trivial, ?_⟩
    intro h₂ o₂
    have c₂ := hx.settled o₂
    refine (ih c₂.settling (hc.tail c₂.frame)).andThen ?_
    rintro fs' h₃ - ⟨turns, c⟩
    exact ⟨trivial, _, c.cons hx o₂⟩

/-- A turn that comes after one that was cut off, or skipped, comes too late. -/
theorem ClosedInTurn.late {turns : List CloseTurn} {fs : Failures} (c : ClosedInTurn D P d ss turns h fs h') :
    turns.Pairwise fun x y => x.IsCut ∨ x.IsSkipped → y.IsSkipped := by
  refine c.inTurn.imp_of_mem ?_
  intro x y hx hy hle hlate
  have holds := c.holds x hx
  refine (c.holds y hy).skipped.2 (Nat.le_trans ?_ hle)
  rcases hlate with hcut | hskipped
  · exact Nat.le_of_eq (holds.cut hcut).symm
  · exact Nat.le_trans (holds.skipped.1 hskipped) holds.closing.frame.grows.now

/-- Once a turn is skipped, so are those after it. -/
theorem exists_split_skipped {turns : List CloseTurn}
    (hp : turns.Pairwise fun x y => x.IsSkipped → y.IsSkipped) :
    ∃ begun late, turns = begun ++ late ∧ (∀ x ∈ begun, ¬ x.IsSkipped) ∧ ∀ x ∈ late, x.IsSkipped := by
  induction turns with
  | nil => exact ⟨[], [], rfl, by simp, by simp⟩
  | cons x rest ih =>
    obtain ⟨hx, hrest⟩ := List.pairwise_cons.1 hp
    by_cases hskipped : x.IsSkipped
    · exact ⟨[], x :: rest, rfl, by simp, by simpa [hskipped] using hx⟩
    · obtain ⟨begun, late, rfl, hb, hl⟩ := ih hrest
      exact ⟨x :: begun, late, rfl, by simpa [hskipped] using hb, hl⟩

/-! ## The report -/

/-- What the first shutdown, begun in `h`, reports: the failures `drained` of its drain, those of the closes, and those of
the exits in the queue. What is known of its drain is `K`. -/
structure Reported (D : Instant → Prop) (P : Prop) (K : Host → Failures → Host → Prop) (h : Host)
    (drained : Failures) (turns : List CloseTurn) (queue : List Exit) (failures : Failures) (h' : Host) :
    Prop where
  parts : failures = drained ++ turns.flatMap CloseTurn.failures ++ queue.flatMap exitFailures
  drain : ∃ g g' t, Keeps D P [(t, .stopping)] h g ∧ g.now = h.now ∧ K g drained g' ∧ g'.Grows h'
  /-- Every started resource had its turn, in the order of the starts. -/
  resources : turns.map CloseTurn.started = h.coordinator.started
  holds : ∀ x ∈ turns, x.Holds D P h.shutdownDeadline
  kept : ∀ x ∈ turns, x.after.Grows h'
  inTurn : turns.Pairwise fun x y => x.after.now ≤ y.before.now
  skipped : ∃ begun late, turns = begun ++ late ∧ (∀ x ∈ begun, ¬ x.IsSkipped) ∧ ∀ x ∈ late, x.IsSkipped
  /-- After a turn that was cut off all are skipped. -/
  cut : turns.Pairwise fun x y => x.IsCut → y.IsSkipped
  /-- Of the exits that arrived since, those that are not in the queue are still to be heard of. -/
  exits : ∃ es, queue = h.exits ++ es ∧ h'.arrivals = h.arrivals ++ es ++ h'.exits
  success : Failures.toExcept failures = .ok () ↔
    drained = [] ∧ (∀ x ∈ turns, x.failures = []) ∧ ∀ e ∈ queue, Clean e.result
  phase : h'.coordinator.phase = .stopped

theorem Failures.toExcept_eq_ok {fs : Failures} : Failures.toExcept fs = .ok () ↔ fs = [] := by
  cases fs <;> simp [toExcept]

theorem append_failures_eq_nil {drained : Failures} {turns : List CloseTurn} {queue : List Exit} :
    drained ++ turns.flatMap CloseTurn.failures ++ queue.flatMap exitFailures = [] ↔
      drained = [] ∧ (∀ x ∈ turns, x.failures = []) ∧ ∀ e ∈ queue, Clean e.result := by
  simp [exitFailures_eq_nil]

section
variable {K : Host → Failures → Host → Prop}

/-- With the closes over, the queued exits are reported and the shutdown ends. -/
theorem ClosedInTurn.reported {D' : Instant → Prop} {l : List (Instant × Deed)} {drained closed failures : Failures}
    {turns : List CloseTurn} {h₄ h₅ h₆ : Host}
    (c : ClosedInTurn D P h.shutdownDeadline h.coordinator.started turns h₄ closed h₅)
    (hdrain : ∃ g g' t, Keeps D P [(t, .stopping)] h g ∧ g.now = h.now ∧ K g drained g' ∧ g'.Grows h₄)
    (k : Keeps D' P l h h₄) (hfailures : failures = drained ++ closed ++ (reportExits h₅).1)
    (o : Others (Peers D P) (reportExits h₅).2 h₆)
    (o' : Others (Peers D P) (endShutdown failures h₆) h') :
    Reported D P K h drained turns h₅.exits failures h' := by
  obtain ⟨l', c'⟩ := c.closing
  obtain ⟨trace, he⟩ := reportExits_eq h₅
  have kend : Keeps D P [(h₆.now, .stopped failures)] (reportExits h₅).2 h' := by
    simpa using (o.keeps.trans (.endShutdown h₆ failures)).trans o'.keeps
  have g₅ : h₅.Grows h' := (leaves_reportExits h₅).grows.trans kend.grows
  have hparts : failures = drained ++ turns.flatMap CloseTurn.failures ++ h₅.exits.flatMap exitFailures := by
    rw [hfailures, c.failures]
    rfl
  exact
    { parts := hparts
      drain := by
        obtain ⟨g, g', t, kg, hnow, hk, g₄⟩ := hdrain
        exact ⟨g, g', t, kg, hnow, hk, g₄.trans (c'.frame.grows.trans g₅)⟩
      resources := c.resources
      holds := c.holds
      kept := fun x hx => (c.kept x hx).trans g₅
      inTurn := c.inTurn
      skipped := exists_split_skipped (c.late.imp fun hl hs => hl (.inr hs))
      cut := c.late.imp fun hl hcut => hl (.inl hcut)
      exits := by
        obtain ⟨es, hexits, harrivals⟩ := k.exits
        obtain ⟨es', hexits', harrivals'⟩ := c'.frame.exits
        obtain ⟨late, hlate, harrived⟩ := kend.exits
        rw [he] at hlate harrived
        refine ⟨es ++ es', by rw [hexits', hexits, List.append_assoc], ?_⟩
        rw [harrived, hlate]
        show h₅.arrivals ++ late = _
        rw [harrivals', harrivals]
        simp
      success := by rw [Failures.toExcept_eq_ok, hparts, append_failures_eq_nil]
      phase := by rw [o'.frame.coordinator]; rfl }

/-- A shutdown that is the first gives its report. -/
theorem meets_shutdown_reported (reason : StopReason) (hup : h.IsUp) (hs : h.Steady P)
    (hc : Closable h h.coordinator.started)
    (hK : ∀ g, Spares D P h g → (drain h.shutdownDeadline).Meets { rely := Peers D P } (K g) g) :
    (shutdown reason).Meets (timelyTerms D P fun _ => True)
      (fun fs h' => ∃ drained turns queue, Reported D P K h drained turns queue fs h') h := by
  refine meets_read.2 ⟨trivial, trivial, ?_⟩
  intro h₁ o₁
  have hnot : ¬ (h.coordinator.phase = .shuttingDown ∨ h.coordinator.phase = .stopped) := by
    rcases hup with hp | hp <;> simp [hp]
  rw [if_neg hnot]
  refine meets_act.2 ⟨trivial, trivial, ?_⟩
  intro h₂ o₂
  have hd : (beginShutdown reason h₁).1 = h.shutdownDeadline := by
    show h₁.now + h₁.coordinator.config.shutdownTimeoutMs = _
    rw [o₁.now, o₁.frame.coordinator]
    rfl
  rw [hd]
  have k₂ : Keeps D P [(h₁.now, .stopping)] h h₂ := by
    simpa using (o₁.keeps.trans (keeps_beginShutdown h₁ reason)).trans o₂.keeps
  have hbegun : Closable (beginShutdown reason h₁).2 h.coordinator.started :=
    (hc.frame o₁.frame (by simp)).of_tasks rfl
  have hc₂ : Closable h₂ h.coordinator.started := hbegun.frame o₂.frame (by simp)
  have hdrain := ((meets_drain_inTime (D := D) (d := h.shutdownDeadline) (k₂.steady hs)).and
    (hK h₂ k₂.toSpares) id).weaken (k := timelyTerms D P fun _ => True) id (fun _ _ => trivial)
    (fun _ => trivial) id (fun hl => hl.1) fun _ hp => hp.1
  refine hdrain.andThen ?_
  rintro drained h₃ - ⟨⟨m₃, hclosed⟩, hk⟩
  refine meets_act.2 ⟨trivial, trivial, ?_⟩
  intro h₄ o₄
  have k₃ : Keeps (OrUnder D h.shutdownDeadline) P [] h₂ h₃ := .of_frame m₃.frame fun _ => m₃.steady
  have k₄ : Keeps D P [(h₃.now, .drained drained)] h₃ h₄ := by
    simpa using (keeps_takeStarted drained h₃).trans o₄.keeps
  have hs₄ : h₄.Settling P :=
    ⟨by rw [k₄.grows.registry hclosed]; exact hclosed, k₄.steady m₃.steady⟩
  have htaken : Closable (takeStarted drained h₃).2 h.coordinator.started :=
    (hc₂.frame m₃.frame (by simp)).of_tasks rfl
  have hc₄ : Closable h₄ h.coordinator.started := htaken.frame o₄.frame (by simp)
  have hss : (takeStarted drained h₃).1 = h.coordinator.started := by
    show h₃.coordinator.started = _
    rw [m₃.frame.coordinator, o₂.frame.coordinator, ← o₁.frame.coordinator]
    rfl
  rw [hss]
  refine (meets_closeEach_turns (D := D) (d := h.shutdownDeadline) hs₄ hc₄).andThen ?_
  rintro closed h₅ - ⟨turns, c⟩
  refine meets_act.2 ⟨trivial, trivial, ?_⟩
  intro h₆ o₆
  refine meets_update.2 ⟨trivial, trivial, ?_⟩
  intro h₇ o₇
  have hnow₂ : h₂.now = h.now := o₂.now.trans o₁.now
  exact ⟨trivial, drained, turns, h₅.exits, c.reported ⟨h₂, h₃, h₁.now, k₂, hnow₂, hk, k₄.grows⟩
    (((k₂.mono .inl).trans k₃).trans (k₄.mono .inl)) rfl o₆ o₇⟩

end

namespace Reported

variable {K : Host → Failures → Host → Prop} {drained fs : Failures} {turns : List CloseTurn} {queue : List Exit}
  {x : CloseTurn}

/-- A resource whose turn comes before the deadline is closed. -/
theorem close_mem (c : Reported D P K h drained turns queue fs h') (hx : x ∈ turns)
    (hlt : x.before.now < h.shutdownDeadline) : .close x.started ∈ h'.doings := by
  have holds := c.holds x hx
  obtain ⟨t, ht⟩ : ∃ t, (t, .close x.started) ∈ x.deeds := by
    have hn : ¬ x.IsSkipped := fun hs => Nat.not_lt.2 (holds.skipped.1 hs) hlt
    generalize hd : x.deeds = deeds
    have v := hd ▸ holds.verdict
    cases v.steps with
    | close => exact ⟨_, List.mem_cons_self⟩
    | skip =>
      generalize hf : x.failures = failures at v
      cases v
      exact absurd hf hn
  refine (c.kept x hx).mem_doings ?_
  rw [Host.doings, holds.closing.frame.conduct, List.map_append]
  exact List.mem_append_right _ (List.mem_map.2 ⟨_, ht, rfl⟩)

/-- Every started resource is closed, unless its turn comes too late. -/
theorem close_or_late (c : Reported D P K h drained turns queue fs h') (hs : s ∈ h.coordinator.started) :
    .close s ∈ h'.doings ∨ ∃ x ∈ turns, x.started = s ∧ h.shutdownDeadline ≤ x.before.now := by
  rw [← c.resources] at hs
  obtain ⟨x, hx, rfl⟩ := List.mem_map.1 hs
  rcases Nat.lt_or_ge x.before.now h.shutdownDeadline with hlt | hle
  · exact .inl (c.close_mem hx hlt)
  · exact .inr ⟨x, hx, rfl, hle⟩

/-- A shutdown that is over before its deadline has closed every started resource. -/
theorem closes (c : Reported D P K h drained turns queue fs h') (hlt : h'.now < h.shutdownDeadline) :
    ∀ s ∈ h.coordinator.started, .close s ∈ h'.doings := by
  intro s hs
  refine (c.close_or_late hs).resolve_right ?_
  rintro ⟨x, hx, -, hle⟩
  have hnow : x.before.now ≤ h'.now :=
    Nat.le_trans (c.holds x hx).closing.frame.grows.now (c.kept x hx).now
  exact Nat.not_lt.2 (Nat.le_trans hle hnow) hlt

end Reported

/-- What a coordinator that is up holds can be closed. -/
theorem Idle.closable (i : Idle h) (hup : h.IsUp) : Closable h h.coordinator.started := by
  have u : Upright [] h := i.upright hup
  have hheld : h.coordinator.started.Sublist (startsOf h.doings) := by simpa using u.held
  exact
    { starts := fun s hs => u.job? i.toProper (List.mem_append_left _ hs)
      alive := u.alive
      distinct := i.distinct.sublist (hheld.map _) }

/-- The first shutdown, whatever was called before and however the others behave, reports what its drain gave, then what
became of each started resource, then each failing exit, and succeeds exactly when there is nothing to report. -/
theorem shutdown_reports_each_failure (hr : Reached (Move anyone) h) (hup : h.IsUp) (D : Instant → Prop) (P : Prop)
    (hs : h.Steady P) (reason : StopReason) :
    (shutdown reason).Meets (timelyTerms D P fun _ => True)
      (fun fs h' => ∃ drained turns queue, Reported D P
        (fun g fs g' => Run (Peers D P) (drain h.shutdownDeadline) g (.returned fs) g') h drained turns queue fs h')
      h :=
  meets_shutdown_reported reason hup hs (hr.idle.closable hup) fun g _ => meets_run_of _ g

/-- The report of a shutdown with a failing action, a failing close, one that is cut off, one that is skipped, and a start
that came back with an error. -/
theorem shutdown_reports_five_failures : ∃ (h h' : Host) (failures : Failures),
    Reached (Move anyone) h ∧ h.IsUp ∧ h.Steady False ∧ h.coordinator.started = [⟨0, 0⟩, ⟨1, 1⟩, ⟨2, 2⟩] ∧
    failures = [.failed "flush" (.text "refused"), .failed "db" (.resource (.io "lost")), .timedOut "web",
      .skipped "log", .failed "log" (.resource (.io "gone"))] ∧
    Run (Peers nobody False) (shutdown .requested) h (.returned failures) h' ∧
    ∃ drained turns queue, Reported nobody False
      (fun g fs g' => Run (Peers nobody False) (drain h.shutdownDeadline) g (.returned fs) g') h drained turns
      queue failures h' := by
  obtain ⟨h, h', failures, hr, ht, hup, hstarted, hfailures, hstop, -⟩ := exists_stop_of_three
  have hreports := shutdown_reports_each_failure hr hup nobody False (.inr ht) .requested
  exact ⟨h, h', failures, hr, hup, .inr ht, hstarted, hfailures, hstop, (hreports.of_run hstop).2.1 _ rfl⟩

end ServiceHost.Lifecycle
