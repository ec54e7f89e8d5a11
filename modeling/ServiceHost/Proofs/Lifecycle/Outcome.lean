import ServiceHost.Proofs.Lifecycle.Calls
import ServiceHost.Proofs.Lifecycle.Reckoning

/-! What a whole run tells of a coordinator whose registry nobody else drains: it succeeds exactly when the boot
succeeded and nothing failed, and otherwise gives the error of the boot, the first failure that it heard of, or the
failures of its shutdown. -/

namespace ServiceHost.Lifecycle

open Relation Routine

variable {h h' h₁ h₂ h₃ k : Host} {before : List Deed}

/-- A coordinator before its first call, with resources added at any time. Others register actions and fire the
trigger meanwhile, and do not drain. -/
inductive Prepared : Host → Prop where
  | fresh (h : Host) : h.Fresh → h.Tame → Prepared h
  | added (h : Host) (r : ResourceId) : Prepared h → Prepared (addResource r h)
  | passed (h h' : Host) : Prepared h → Waits (Peers nobody False) [] h h' → Prepared h'

/-- Nobody drained, and no action was put on a task. -/
structure Undrained (h : Host) : Prop where
  tame : h.Tame
  opened : h.registry.closed = false
  quiet : ∀ t a d, h.job? t ≠ some (.action a d)

theorem Undrained.spares (u : Undrained h) (s : Spares nobody False h h') : Undrained h' where
  tame := (s.steady (.inr u.tame)).resolve_left id
  opened := (s.undrained fun _ => id).trans u.opened
  quiet t a d hj := u.quiet t a d (s.job?_action (fun _ => id) hj)

/-! ## Before the run -/

/-- What holds of a coordinator before its first call. -/
structure Ready (h : Host) : Prop extends Undrained h where
  idle : Idle h
  attentive : Attentive h
  phase : h.coordinator.phase = .notStarted
  bootFailure : h.coordinator.bootFailure = none
  doings : ∀ d ∈ h.doings, d.isEarly = true

theorem Keeps.addResource (h : Host) (r : ResourceId) :
    Keeps nobody False [(h.now, .added r)] h (addResource r h) := by
  have hlist : ∀ g : Host, Keeps nobody False [] g
      (g.modifyCoordinator fun c => { c with pending := c.pending ++ [r] }) := fun g =>
    .modifyCoordinator g rfl
  have hrecord : ∀ g : Host, Keeps nobody False [(g.now, .added r)] g (g.record (.added r)) := fun g =>
    .record g rfl
  have m := ((Keeps.emit h (.resourceAdded (h.resourceName r))).trans (hlist _)).trans (hrecord _)
  exact m

/-- By induction over what was done before. -/
theorem Prepared.ready (p : Prepared h) : Ready h := by
  induction p with
  | fresh h f ht =>
    have hdeeds : h.deeds = [] := by rw [Host.deeds, f.history, List.map_nil]
    exact
      { tame := ht
        opened := by rw [f.registry]
        quiet := fun t a d hj => by simp [Host.job?, Host.task?, f.tasks] at hj
        idle := f.idle
        attentive := ⟨[], by rw [Host.arrivals, hdeeds, f.exits]; rfl, by rw [f.coordinator]; rfl⟩
        phase := by rw [f.coordinator]
        bootFailure := by rw [f.coordinator]
        doings := by
          rw [Host.doings, Host.conduct, f.history]
          exact fun _ hx => absurd hx List.not_mem_nil }
  | added h r _ ih =>
    have m := Keeps.addResource h r
    exact
      { ih.toUndrained.spares m.toSpares with
        idle := ih.idle.add r
        attentive := m.attentive ih.attentive
        phase := ih.phase
        bootFailure := ih.bootFailure
        doings := fun d hd => by
          rw [m.doings] at hd
          rcases List.mem_append.1 hd with hd | hd
          · exact ih.doings d hd
          · rw [List.mem_singleton.1 hd]; rfl }
  | passed h h' _ w ih =>
    exact
      { ih.toUndrained.spares w.keeps.toSpares with
        idle := ih.idle.leaves w.frame.leaves
        attentive := w.keeps.attentive ih.attentive
        phase := w.frame.leaves.phase.trans ih.phase
        bootFailure := w.frame.leaves.bootFailure.trans ih.bootFailure
        doings := w.frame.doings ▸ ih.doings }

/-! ## When the shutdown begins -/

/-- The drain of the shutdown gave every accepted action its turn. -/
def TookTurns (h : Host) (failures : Failures) (h' : Host) : Prop :=
  ∃ d turns, Drained d turns h failures h' ∧ turns.map Turn.action = h'.accepts

theorem Undrained.meets_drain (u : Undrained h) (b : Begun nobody False h k) {d : Instant} :
    (drain d).Meets { rely := Peers nobody False } (TookTurns k) k := by
  obtain ⟨t, m⟩ := b.keeps
  have v : Undrained k := u.spares m.toSpares
  have hdrain := meets_drain_account (d := d) (.refl k) v.opened v.tame.actions
  refine (hdrain.mono fun fs h' _ ⟨_, turns, c⟩ => ?_).weaken And.left (fun _ _ => trivial)
    (fun _ => trivial) False.elim (fun _ => trivial) fun _ => False.elim
  exact ⟨d, turns, c, by rw [c.accepts, c.actions, b.proper.books.roll v.opened]⟩

theorem BootedBy.unique {q : Except BootError Unit} (b : BootedBy q h) :
    .booted q ∈ h.doings ∧ ∀ r, .booted r ∈ h.doings → r = q := by
  obtain ⟨l, hl, hun⟩ := b.told
  rw [hl]
  refine ⟨List.mem_append_right _ List.mem_cons_self, ?_⟩
  intro r hr
  rcases List.mem_append.1 hr with hr | hr
  · exact absurd hr (hun r)
  · simpa using hr

/-- Nothing boots during a shutdown. -/
theorem ShutDown.mem_booted {D : Instant → Prop} {P : Prop} {K : Host → Failures → Host → Prop}
    {fs : Failures} {q : Except BootError Unit} (c : ShutDown D P K h fs h')
    (hq : .booted q ∈ h'.doings) : .booted q ∈ h.doings := by
  obtain ⟨t₁, t₂, t₃, drained, l, hl, he⟩ := c.conduct
  have hd : h'.doings = h.doings ++ .stopping :: .drained drained :: l.map (·.2) ++ [.stopped fs] := by
    simp [Host.doings, he]
  rw [hd, List.mem_append, List.mem_append] at hq
  obtain (hq | hq) | hq := hq
  · exact hq
  · have hmem : .booted q ∈ l.map (·.2) := by
      simpa only [List.mem_cons, reduceCtorEq, false_or] using hq
    obtain ⟨s, -, he | ⟨_, he⟩ | he⟩ := hl.mem hmem <;> cases he
  · cases List.mem_singleton.1 hq

/-- The boot succeeded and the wait for a reason to stop is over, with the deeds `before` it. -/
structure Halted (before : List Deed) (h : Host) : Prop extends Undrained h where
  idle : Idle h
  up : h.IsUp
  started : h.coordinator.started = startsOf h.doings
  booted : .booted (.ok ()) ∈ h.doings ∧ ∀ q, .booted q ∈ h.doings → q = .ok ()
  waited : before ++ [.waited] <+: h.deeds ∧ .waited ∉ before
  heard : h.arrivals = before.filterMap Deed.exit? ++ h.exits ∧
    h.coordinator.failure = (before.filterMap Deed.exit?).findSome? Exit.failure?
  unclosed : ∀ s q, .closed s q ∉ h.doings

theorem Ready.early (r : Ready h) (b : Boots nobody False h h') : ∀ d ∈ h'.doings, d.isEarly = true := by
  obtain ⟨l, hl, m⟩ := b
  intro d hd
  rw [m.doings] at hd
  rcases List.mem_append.1 hd with hd | hd
  · exact r.doings d hd
  · obtain ⟨x, hx, rfl⟩ := List.mem_map.1 hd
    rw [Deed.isEarly, hl x hx, Bool.or_true]

theorem Ready.halted (r : Ready h) (b : Booted nobody False (.ok ()) h h₁)
    (w : Waited nobody False h₁ h₂) : ∃ before, Halted before h₂ := by
  have u : Undrained h₂ := r.toUndrained.spares (b.boots.spares.trans w.spares)
  have b₁ : BootedBy (.ok ()) h₁ := b.first r.phase r.bootFailure
  have hearly := r.early b.boots
  obtain ⟨g, m, hempty, o⟩ := w
  obtain ⟨l, -, m₁⟩ := b.boots
  obtain ⟨heard, ha, hf⟩ := m.attentive (m₁.attentive r.attentive)
  rw [hempty, List.append_nil] at ha
  have hrecord : Keeps nobody False [(g.now, .waited)] g (g.record .waited) := .record g rfl
  have m₂ : Leaves (g.record .waited) h₂ := o.frame.leaves
  have hd : h₂.doings = h₁.doings ++ [.waited] := by
    rw [m₂.doings, g.doings_record rfl, m.leaves.doings]
  obtain ⟨es, he, ha₂⟩ := (hrecord.trans o.keeps).exits
  have hstarted : h₂.coordinator.started = h₁.coordinator.started := m₂.started.trans m.leaves.started
  have hfailure : h₂.coordinator.failure = g.coordinator.failure := by
    rw [o.frame.coordinator]
    rfl
  have hheard : g.deeds.filterMap Deed.exit? = heard := ha
  refine ⟨g.deeds, ?_⟩
  exact
    { u with
      idle := (b.idle.leaves m.leaves).recordWaited.leaves m₂
      up := .inr (m₂.phase.trans (m.leaves.phase.trans b₁.phase))
      started := by
        rw [hstarted, b₁.all rfl, hd, startsOf_append]
        exact (List.append_nil _).symm
      booted := by simpa [hd] using b₁.unique
      waited := by
        constructor
        · rw [← g.deeds_record]
          exact m₂.grows.history.map _
        · intro hmem
          have hold : .waited ∈ g.doings := Host.mem_doings.2 ⟨hmem, rfl⟩
          rw [m.leaves.doings] at hold
          cases hearly _ hold
      heard := by
        constructor
        · rw [he, hempty, ha₂]
          rfl
        · rw [hheard, ← hf, hfailure]
      unclosed := fun s q hmem => by
        rw [hd] at hmem
        rcases List.mem_append.1 hmem with hmem | hmem
        · cases hearly _ hmem
        · cases List.mem_singleton.1 hmem }

/-! ## When the shutdown is over -/

theorem Drained.mem_tasks {d e : Instant} {turns : List Turn} {fs : Failures} {t : TaskId} {a : Action}
    (c : Drained d turns h fs h') (u : Undrained h) (hj : h'.job? t = some (.action a e))
    (g : h.Grows h') : t ∈ turns.filterMap Turn.task? := by
  rcases Nat.lt_or_ge t h.tasks.length with hlt | hle
  · exact absurd (g.job?_of_lt hlt hj) (u.quiet t a e)
  · obtain ⟨b, hb, hbj⟩ := Option.map_eq_some_iff.1 hj
    exact (c.invoked t b a e hle hb hbj).1

/-- The failures that the shutdown gives are those of the turns, of the closes and of the exits that were queued
since the wait was over. -/
theorem Halted.reckoning {fs : Failures} (w : Halted before h)
    (c : ShutDown nobody False TookTurns h fs h₃) (f : Frame nobody [] [] h₃ h') :
    ∃ turns closed k, Reckoning (before.filterMap Deed.exit?) turns h.coordinator.started closed k h' ∧
      fs = turns.flatMap Turn.failures ++ closed ++ k.exits.flatMap exitFailures ∧
      h'.doings.getLast? = some (.stopped fs) := by
  obtain ⟨k, drained, closed, l, t, c', v, hended, hfs, s, hconduct⟩ := c.course
  obtain ⟨g₁, g₂, t₁, t₂, k₁, k₂, ⟨d, turns, hdrained, haccepts⟩, k₃⟩ := c'.stages
  have u₁ : Undrained g₁ := w.toUndrained.spares k₁.toSpares
  have m : Keeps (OrUnder nobody h.shutdownDeadline) False
      ((t₁, .stopping) :: (t₂, .drained drained) :: l) h k := by
    simpa using ((k₁.mono .inl).trans k₂).trans (k₃.mono .inl)
  have s₂ : Spares nobody False g₂ h₃ := k₃.toSpares.trans s
  have hk : k.doings = h.doings ++ .stopping :: .drained drained :: l.map (·.2) := by
    rw [m.doings, List.map_cons, List.map_cons]
  have hlast : h'.doings = k.doings ++ [.stopped fs] := by
    rw [f.doings, Host.doings, hconduct, List.map_append, Host.doings]
    rfl
  have hstarts : startsOf k.doings = h.coordinator.started := by
    have hnone : startsOf (.stopping :: .drained drained :: l.map (·.2)) = [] := v.log.starts
    rw [hk, startsOf_append, hnone, List.append_nil, w.started]
  refine ⟨turns, closed, k, ?_, by rw [hfs, hdrained.failures], by rw [hlast]; simp⟩
  exact
    { before := c'.proper
      after := c.idle.toProper.leaves f.leaves
      grows := s.grows.trans f.grows
      ended := hended
      starts := ⟨hstarts, by rw [hlast, startsOf_append, hstarts]; exact List.append_nil _⟩
      up := fun x hx => m.grows.mem_doings ((w.idle.upright w.up).up x hx)
      exits := by
        obtain ⟨es, he, ha⟩ := m.exits
        rw [ha, he, w.heard.1, List.append_assoc]
      closes := by
        refine ⟨_, l, v, ?_⟩
        intro x q
        rw [hlast, hk, List.mem_append, List.mem_append, or_iff_right (w.unclosed x q)]
        simp only [List.mem_cons, reduceCtorEq, false_or, List.not_mem_nil, or_false]
      actions := by
        have hclosed : g₂.registry.closed = true := by rw [hdrained.closed]
        rw [haccepts, f.accepts c.closed, s₂.accepts hclosed]
      holds := ⟨d, fun x hx => (hdrained.holds x hx).grows (s₂.grows.trans f.grows)⟩
      order := hdrained.order
      tasks := fun u a e hj =>
        hdrained.mem_tasks u₁ (s₂.job?_action (fun _ => id) (f.job?_action hj)) k₂.grows }

/-- What the result of a run tells of the host that it leaves. -/
structure Told (result : Except RunError Unit) (h : Host) : Prop where
  /-- There was one boot. -/
  booted : ∃ q, .booted q ∈ h.doings ∧ ∀ r, .booted r ∈ h.doings → r = q
  ok : result = .ok () ↔
    .booted (.ok ()) ∈ h.doings ∧ StartsClean h ∧ ActionsClean h ∧ ClosesClean h
  boot : ∀ e, .booted (.error e) ∈ h.doings → result = .error (.boot e)
  /-- After a boot that succeeded it is the first failure among the exits that arrived before the wait was over, or
  else what the shutdown gave. -/
  ran : .booted (.ok ()) ∈ h.doings → ∃ before after failures,
    h.deeds = before ++ .waited :: after ∧ .waited ∉ before ∧
      h.doings.getLast? = some (.stopped failures) ∧
      result = runResult ((before.filterMap Deed.exit?).findSome? Exit.failure?) failures

theorem Halted.told {fs : Failures} (w : Halted before h) (c : ShutDown nobody False TookTurns h fs h₃)
    (f : Frame nobody [] [] h₃ h') : Told (runResult h₃.coordinator.failure fs) h' := by
  obtain ⟨turns, closed, k, m, hfs, hlast⟩ := w.reckoning c f
  have g : h.Grows h' := c.spares.grows.trans f.grows
  have hbooted : .booted (.ok ()) ∈ h'.doings := g.mem_doings w.booted.1
  have hunique : ∀ q, .booted q ∈ h'.doings → q = .ok () := fun q hq =>
    w.booted.2 q (c.mem_booted (f.doings ▸ hq))
  have hfailure : h₃.coordinator.failure = (before.filterMap Deed.exit?).findSome? Exit.failure? :=
    c.failure.trans w.heard.2
  exact
    { booted := ⟨_, hbooted, hunique⟩
      ok := by
        rw [runResult_eq_ok_iff, hfailure, hfs, m.clean_iff]
        exact (and_iff_right hbooted).symm
      boot := fun e he => nomatch hunique _ he
      ran := fun _ => by
        obtain ⟨after, ha⟩ := w.waited.1.trans (g.history.map _)
        refine ⟨before, after, fs, ?_, w.waited.2, hlast, by rw [hfailure]⟩
        rw [← List.append_cons] at ha
        exact ha.symm }

/-- A run tells what happened, however the boot ended. -/
theorem Ready.told {result : Except RunError Unit} (r : Ready h)
    (l : Lived nobody False TookTurns h result h') : Told result h' := by
  cases l with
  | @failed e fs h₁ h₂ h₃ _ b o c f =>
    have b₁ : BootedBy (.error e) h₁ := b.first r.phase r.bootFailure
    have hphase : h₂.coordinator.phase = .notStarted := by
      rw [o.frame.coordinator, b₁.phase, if_neg nofun]
    have c₂ := c.first (.inl hphase)
    have g : h₂.Grows h' := c₂.spares.grows.trans f.grows
    have hbooted : .booted (.error e) ∈ h'.doings := by
      refine g.mem_doings ?_
      rw [o.frame.doings]
      exact b₁.unique.1
    have hunique : ∀ q, .booted q ∈ h'.doings → q = .error e := fun q hq => by
      have hq₂ := c₂.mem_booted (f.doings ▸ hq)
      rw [o.frame.doings] at hq₂
      exact b₁.unique.2 q hq₂
    exact
      { booted := ⟨_, hbooted, hunique⟩
        ok := ⟨nofun, fun hok => nomatch hunique _ hok.1⟩
        boot := fun e' he => by cases hunique _ he; rfl
        ran := fun hok => nomatch hunique _ hok }
  | @served fs h₁ h₂ h₃ _ b w c f =>
    obtain ⟨before, halted⟩ := r.halted b w
    exact halted.told (c.first halted.up) f

/-- A run never panics and can always be brought to its end by a trigger, and whenever it ends it succeeds exactly
when the boot succeeded, every start came back without an error or closed, every accepted action returned without
an error, and every resource that came up was closed and its start ended, neither being cut off. -/
theorem run_tells_what_went_wrong {out : Progress (Except RunError Unit)} (p : Prepared h)
    (hrun : Run (Peers nobody False) run h out h') :
    (∀ result, out = .returned result → Told result h') ∧ (∀ q, out ≠ .panicked q) ∧
      ∀ rest, out = .going rest →
        ∃ result h'', Run (Peers nobody False) rest h' (.returned result) h'' ∧ Told result h'' := by
  have r : Ready h := p.ready
  have m := meets_run (D := nobody) (P := False) (K := TookTurns) r.idle (.inr r.tame) fun h₁ g s b =>
    (r.toUndrained.spares s).meets_drain b
  have mtold := m.mono fun result h' _ hq => r.told hq.2
  obtain ⟨-, hreturned, hpanicked, hgoing⟩ := mtold.of_run hrun
  refine ⟨hreturned, fun q hq => (hpanicked q hq).1, ?_⟩
  intro rest hrest
  refine (hgoing rest hrest).exists_run trivial (fun _ hp => hp.1) ?_
  intro _ g reason
  exact ⟨.fire g reason, fun hs => hs.of_same rfl rfl⟩

/-- Two resources come up, and the start of the second comes back with an error: the run closes both and tells of it. -/
theorem run_of_two_resources : ∃ (h h' : Host) (result : Except RunError Unit), Prepared h ∧
    h.coordinator.pending = [0, 1] ∧ result = .error (.resourceFailed "web" (.io "gone")) ∧
    Run (Peers nobody False) run h (.returned result) h' ∧ closesOf h'.doings = [⟨0, 0⟩, ⟨1, 1⟩] ∧ Told result h' := by
  obtain ⟨h, h', result, hp, hpending, hresult, hrun, hcloses⟩ : ∃ (h h' : Host) (result : Except RunError Unit),
      Prepared h ∧ h.coordinator.pending = [0, 1] ∧ result = .error (.resourceFailed "web" (.io "gone")) ∧
      Run (Peers nobody False) run h (.returned result) h' ∧ closesOf h'.doings = [⟨0, 0⟩, ⟨1, 1⟩] := by
    have htame : Host.Tame
        { coordinator := { config := { handleSignals := false } },
          resources := [.scripted "db" {}, .scripted "web" {}] } :=
      Host.tame_of_scripted [("db", {}), ("web", {})] nofun rfl (by simp)
    have hp := ((Prepared.fresh _ ⟨rfl, rfl, rfl, rfl, rfl⟩ htame).added _ 0).added _ 1
    apply Exists.intro
    apply Exists.intro
    refine ⟨_, hp, rfl, rfl, ?run, ?_⟩
    case run =>
      iterate 11 apply Run.step .refl
      apply Run.wait (i := 0) (.single (.inl ⟨.ready _ 0, fun hs => hs.of_same rfl rfl⟩))
        ⟨_, rfl, rfl, fun _ => nofun⟩
      iterate 9 apply Run.step .refl
      apply Run.wait (i := 0) (.single (.inl ⟨.ready _ 1, fun hs => hs.of_same rfl rfl⟩))
        ⟨_, rfl, rfl, fun _ => nofun⟩
      iterate 5 apply Run.step .refl
      -- The start of the second comes back, and the coordinator hears of it.
      apply Run.handle (i := 1)
        (.single (.inl ⟨.comeBack (t := 1) _ (.error (.io "gone")) rfl rfl, fun hs => hs.of_same rfl rfl⟩))
        ⟨.exitQueued, rfl, rfl, fun _ => nofun⟩ rfl
      apply Run.leave (i := 0) .refl ⟨.triggered, rfl, rfl, fun _ => nofun⟩ rfl .refl
      iterate 14 apply Run.step .refl
      -- The start of the first comes back when it was closed.
      apply Run.wait (i := 0)
        (.single (.inl ⟨.comeBack (t := 0) _ (.ok ()) rfl rfl, fun hs => hs.of_same rfl rfl⟩))
        ⟨_, rfl, rfl, fun _ => nofun⟩
      iterate 9 apply Run.step .refl
      apply Run.wait (i := 0) .refl ⟨_, rfl, rfl, fun _ => nofun⟩
      iterate 6 apply Run.step .refl
      exact .done _ _
    · rfl
  have htold : Told result h' := (run_tells_what_went_wrong hp hrun).1 _ rfl
  exact ⟨h, h', result, hp, hpending, hresult, hrun, hcloses, htold⟩

end ServiceHost.Lifecycle
