import ServiceHost.Proofs.Lifecycle.Steps

/-! What the success of a boot vouches for. It may be told by a call that booted, by one that came after a
boot, or by one that came after a shutdown and never booted; in the last two cases what was added in the
meantime was not started. -/

namespace ServiceHost.Lifecycle

open Relation Routine

variable {E : Host → Host → Prop} {D : Instant → Prop} {G : StopReason → Prop} {h h₀ h' h'' g : Host}
  {signals : List Signal} {l : List Deed} {rs : List ResourceId}

/-! ## Early deeds -/

theorem startsOf_early (h : Host) : startsOf h.early = startsOf h.doings := by
  rw [startsOf, Host.early, List.filterMap_filter, startsOf]
  refine List.filterMap_congr fun d _ => ?_
  cases d <;> rfl

@[simp] theorem startsOf_added : startsOf (rs.map .added) = [] :=
  List.filterMap_eq_nil_iff.2 fun _ hd => by
    obtain ⟨r, -, rfl⟩ := List.mem_map.1 hd
    rfl

@[simp] theorem addsOf_added : addsOf (rs.map .added) = rs := by
  rw [addsOf, List.filterMap_map]
  exact List.filterMap_some

theorem Host.early_append (h : Host) {d : Deed} (hf : d.isForeign = false) (hd : d.isEarly = true) :
    (h.record d).early = h.early ++ [d] := by
  simp [early, h.doings_record hf, hd]

theorem Leaves.early (m : Leaves h h') : h'.early = h.early := by rw [Host.early, m.doings, Host.early]

/-! ## Between two boots -/

/-- From `h` to `h'` nothing is booted: resources may be added, and the coordinator may be shut down. -/
structure Collects (h h' : Host) : Prop where
  grows : h.Grows h'
  bootFailure : h'.coordinator.bootFailure = h.coordinator.bootFailure
  phase : h'.coordinator.phase = h.coordinator.phase ∨ ¬ h'.IsUp
  adds : ∃ rs, h'.early = h.early ++ rs.map .added ∧ h'.coordinator.pending = h.coordinator.pending ++ rs

namespace Collects

theorem of_early (g : h.Grows h') (hb : h'.coordinator.bootFailure = h.coordinator.bootFailure)
    (hp : h'.coordinator.phase = h.coordinator.phase ∨ ¬ h'.IsUp)
    (hpending : h'.coordinator.pending = h.coordinator.pending) (he : h'.early = h.early) : Collects h h' :=
  ⟨g, hb, hp, [], by simpa using he, by simpa using hpending⟩

theorem of_leaves (m : Leaves h h') : Collects h h' :=
  .of_early m.grows m.bootFailure (.inl m.phase) m.pending m.early

theorem of_standing (m : Standing h h') (he : h'.early = h.early) : Collects h h' :=
  .of_early m.grows (by rw [m.coordinator]) (.inl (by rw [m.coordinator])) (by rw [m.coordinator]) he

theorem refl (h : Host) : Collects h h := of_standing (.refl h) rfl

theorem of_move (m : Move D h h') : Collects h h' := of_standing (.of_move m) m.early

theorem of_tick (m : Tick signals h h') : Collects h h' :=
  .of_leaves (m.frame (D := nobody)).leaves

theorem of_beside (m : Beside h h') : Collects h h' := of_standing (.of_beside m) m.early

theorem trans (m : Collects h h') (m' : Collects h' h'') : Collects h h'' where
  grows := m.grows.trans m'.grows
  bootFailure := m'.bootFailure.trans m.bootFailure
  phase := by
    rcases m'.phase with hp' | hdown
    · rcases m.phase with hp | hdown
      · exact .inl (hp'.trans hp)
      · refine .inr ?_
        rwa [Host.IsUp, hp']
    · exact .inr hdown
  adds := by
    obtain ⟨rs, he, hp⟩ := m.adds
    obtain ⟨rs', he', hp'⟩ := m'.adds
    exact ⟨rs ++ rs', by rw [he', he, List.map_append, List.append_assoc], by rw [hp', hp, List.append_assoc]⟩

theorem add (h : Host) (r : ResourceId) : Collects h (addResource r h) where
  grows := .of_same rfl rfl rfl rfl (List.prefix_append ..)
  bootFailure := rfl
  phase := .inl rfl
  adds := ⟨[r], Host.early_append _ rfl rfl, rfl⟩

end Collects

theorem WaitStep.collects (m : WaitStep h h') : Collects h h' := by
  cases m with
  | look => exact .refl h
  | listen => exact .of_leaves (leaves_listen h)
  | hear => exact .of_leaves (hears_hearExit (D := nobody) (P := True) h).leaves
  | hearAll =>
    exact (Collects.of_leaves (hears_hearExits (D := nobody) (P := True) h).leaves).trans
      (.of_beside (.record _ rfl))

theorem StopStep.collects (m : StopStep G h h') : Collects h h' := by
  have g : h.Grows h' := m.grows
  cases m with
  | look => exact .refl h
  | tell ht => exact .of_beside (.emit h ht)
  | beside _ b => exact .of_beside b
  | begin _ _ => exact .of_early g rfl (.inr (Host.not_isUp (.inl rfl))) rfl (Host.early_record _ rfl)
  | takeStarted _ _ _ => exact .of_early g rfl (.inl rfl) rfl (Host.early_record _ rfl)
  | finish _ _ _ _ => exact .of_early g rfl (.inr (Host.not_isUp (.inr rfl))) rfl (Host.early_record _ rfl)

/-- The calls that boot. -/
def Call.Boots : Call → Prop
  | .startAll | .run => True
  | _ => False

/-- Calls that do not boot, wherever they stop. -/
theorem Run.collects {c : Call} {out : Progress Unit} (hE : ∀ {a b}, E a b → Move anyone a b) (hc : ¬ c.Boots)
    (hrun : Run E c.routine h out h') : Collects h h' := by
  suffices m : c.routine.Meets { rely := E, guar := Collects } (fun _ _ => True) h from
    ((m.tracks (R := Collects) Collects.trans (fun m => .of_move (hE m)) id .of_tick (.refl h)).of_run hrun).1.2
  cases c with
  | add r => exact meets_update.2 ⟨trivial, .add h r, fun _ _ => ⟨trivial, trivial⟩⟩
  | trigger reason => exact meets_update.2 ⟨trivial, .of_beside (.fire h reason), fun _ _ => ⟨trivial, trivial⟩⟩
  | awaitStop =>
    have m : awaitStop.Meets { rely := E, guar := Collects } (fun _ _ => True) h :=
      (takes_awaitStop.meets h).weaken id (fun _ => WaitStep.collects) id id id fun _ => id
    exact m.andThen fun _ _ _ _ => ⟨trivial, trivial⟩
  | shutdown reason =>
    have m : (shutdown reason).Meets { rely := E, guar := Collects } (fun _ _ => True) h :=
      (meets_shutdown_steps (G := anyReason) hE trivial h).weaken id (fun _ => StopStep.collects) id id id
        fun _ => id
    exact m.andThen fun _ _ _ _ => ⟨trivial, trivial⟩
  | startAll | run => exact absurd trivial hc

/-! ## What earlier calls leave -/

/-- What `l` says was added was started in that order, and came up. -/
structure AllUp (l : List Deed) (h : Host) : Prop where
  starts : (startsOf l).map (·.resource) = addsOf l
  ready : ∀ s ∈ startsOf l, h.readiness s.task = some (.ok ())

theorem AllUp.grows (u : AllUp l h) (g : h.Grows h') : AllUp l h' :=
  ⟨u.starts, fun s hs => g.readiness (u.ready s hs)⟩

/-- How far the boots have come. -/
inductive Stage (h : Host) : Prop where
  /-- Nothing was booted, and what was added is waiting. -/
  | unbooted : h.coordinator.phase ≠ .running → h.coordinator.bootFailure = none →
      h.early = h.coordinator.pending.map .added → Stage h
  /-- What had been added until then came up. -/
  | booted (l : List Deed) (rs : List ResourceId) : h.coordinator.phase ≠ .notStarted → h.coordinator.bootFailure = none →
      h.early = l ++ .booted (.ok ()) :: rs.map .added → AllUp l h → Stage h
  | failed : h.coordinator.bootFailure.isSome → Stage h

theorem Stage.collects (s : Stage h) (m : Collects h h') : Stage h' := by
  obtain ⟨rs', he', hp'⟩ := m.adds
  cases s with
  | unbooted hp hb he =>
    refine .unbooted ?_ (m.bootFailure.trans hb) (by rw [he', he, hp', List.map_append])
    rcases m.phase with hsame | hdown
    · rwa [hsame]
    · exact fun hr => hdown (.inr hr)
  | booted l rs hp hb he u =>
    have hl : h'.early = l ++ .booted (.ok ()) :: (rs ++ rs').map .added := by
      rw [he', he, List.map_append, List.append_assoc, List.cons_append]
    refine .booted l (rs ++ rs') ?_ (m.bootFailure.trans hb) hl (u.grows m.grows)
    rcases m.phase with hsame | hdown
    · rwa [hsame]
    · exact fun hn => hdown (.inl hn)
  | failed hb => exact .failed (by rwa [m.bootFailure])

/-! ## A boot -/

/-- A step of a boot that is refused. -/
theorem BootStep.leaves (m : BootStep h h') (hn : ¬ h.Unbooted) : Leaves h h' := by
  cases m with
  | look => exact (Frame.refl (D := nobody) h).leaves
  | tell _ => exact (Frame.emit (D := nobody) h _).leaves
  | listen => exact leaves_listen h
  | takePending hu | launch _ hu | judge _ hu _ | giveUp _ _ hu _ | hold _ hu | breakOff _ _ hu | run _ hu =>
    exact absurd hu hn

/-- The early deeds in the course of a boot before which `adds` had been added. -/
inductive BootDeeds (adds : List ResourceId) (h : Host) : Prop where
  | underWay : h.Unbooted → addsOf h.early = adds → BootDeeds adds h
  | up (l : List Deed) : h.coordinator.phase = .running → h.early = l ++ [.booted (.ok ())] → addsOf l = adds →
    BootDeeds adds h
  | brokenOff : h.coordinator.bootFailure.isSome → BootDeeds adds h

namespace BootDeeds

variable {adds : List ResourceId}

theorem leaves (b : BootDeeds adds h) (m : Leaves h h') : BootDeeds adds h' := by
  cases b with
  | underWay hu ha =>
    refine .underWay ?_ (by rwa [m.early])
    rwa [Host.Unbooted, m.phase, m.bootFailure]
  | up l hp he ha => exact .up l (by rwa [m.phase]) (by rw [m.early]; exact he) ha
  | brokenOff hb => exact .brokenOff (by rwa [m.bootFailure])

/-- Only a boot that is under way takes a step that counts. -/
theorem adds_of (b : BootDeeds adds h) (hu : h.Unbooted) : addsOf h.early = adds := by
  cases b with
  | underWay _ ha => exact ha
  | up _ hp _ _ => rw [hu.1] at hp; cases hp
  | brokenOff hb => rw [hu.2] at hb; cases hb

/-- Something is done in the boot. -/
theorem record (b : BootDeeds adds h) {d : Deed} (hu : h.Unbooted) (hf : d.isForeign = false)
    (hd : d.isBoot = true) (hh : g.history = h.history)
    (hg : g.Unbooted) : BootDeeds adds (g.record d) := by
  have hearly : g.early = h.early := by rw [Host.early, Host.doings_congr hh, Host.early]
  have hadd : d.added? = none := by cases d <;> first | rfl | cases hd
  refine .underWay hg ?_
  rw [Host.early_append _ hf (by simp [Deed.isEarly, hd]), hearly, addsOf_append, b.adds_of hu, addsOf_singleton,
    hadd]
  exact List.append_nil _

theorem step (b : BootDeeds adds h) (m : BootStep h h') : BootDeeds adds h' := by
  by_cases hu : h.Unbooted
  · cases m with
    | look => exact b
    | tell _ => exact b.leaves (Frame.emit (D := nobody) h _).leaves
    | listen => exact b.leaves (leaves_listen h)
    | takePending _ | judge _ _ _ | giveUp _ _ _ _ => exact .underWay hu (b.adds_of hu)
    | launch r _ => exact b.record (g := (h.spawn _).2) hu rfl rfl rfl hu
    | hold s _ => exact b.record hu rfl rfl rfl hu
    | breakOff e left _ => exact .brokenOff rfl
    | run count _ => exact .up _ rfl (Host.early_append _ rfl rfl) (b.adds_of hu)
  · exact b.leaves (m.leaves hu)

end BootDeeds

/-- What the success of a boot that was called in `h` and came back in `h'` vouches for. -/
inductive Vouched (h h' : Host) : Prop where
  /-- This call booted: it started everything that had been added, in order, and all of it came up. -/
  | booted {ups} : h.Unbooted → h.early = (ups.map (·.resource)).map .added → startsOf h'.doings = ups →
      (∀ s ∈ ups, h'.readiness s.task = some (.ok ())) → h'.coordinator.phase = .running → Vouched h h'
  /-- An earlier call booted: what had been added before that call came up, what was added since was not
  started, and this call did nothing. -/
  | earlier (l : List Deed) (rs : List ResourceId) : h.coordinator.phase ≠ .notStarted → h.early = l ++ .booted (.ok ()) :: rs.map .added →
      AllUp l h' → h'.doings = h.doings → h'.coordinator.phase = h.coordinator.phase → Vouched h h'
  /-- The coordinator was shut down before anything was booted: nothing was ever started. -/
  | never : ¬ h.IsUp → h.early = h.coordinator.pending.map .added → h'.doings = h.doings →
      h'.coordinator.phase = h.coordinator.phase → Vouched h h'

section
variable (hE : ∀ {a b}, E a b → Move anyone a b)
include hE

theorem Run.startAll_refused {result : Except BootError Unit} (hn : ¬ h.Unbooted)
    (hrun : Run E startAll h (.returned result) h') : Leaves h h' := by
  have hleaves : ∀ {a b}, Leaves a b → ¬ a.Unbooted → ¬ b.Unbooted := fun m hn hu => hn <| by
    rwa [Host.Unbooted, m.phase, m.bootFailure] at hu
  have m := (meets_startAll_refused hE hn).tracks (R := fun a b => ¬ a.Unbooted → Leaves a b)
    (fun f f' hn => (f hn).trans (f' (hleaves (f hn) hn))) (fun m _ => (Frame.of_move (hE m)).leaves)
    BootStep.leaves (fun m _ => (m.frame (D := nobody)).leaves) fun _ => (Frame.refl (D := nobody) h).leaves
  exact (m.of_run hrun).1.2 hn

/-- A first boot that succeeded. -/
theorem Run.startAll_first (hu : h.Unbooted) (he : h.early = h.coordinator.pending.map .added)
    (hrun : Run E startAll h (.returned (.ok ())) h') :
    ∃ l, h'.early = l ++ [.booted (.ok ())] ∧ AllUp l h' ∧ addsOf l = h.coordinator.pending ∧
      h'.coordinator.phase = .running ∧ h'.coordinator.bootFailure = none := by
  have b : BootDeeds h.coordinator.pending h := .underWay hu (by rw [he, addsOf_added])
  have m := (meets_startAll_first hE hu).tracks
    (R := fun a b => BootDeeds h.coordinator.pending a → BootDeeds h.coordinator.pending b)
    (fun f f' => f' ∘ f) (fun m b => b.leaves (Frame.of_move (hE m)).leaves) (fun m b => b.step m)
    (fun m b => b.leaves (m.frame (D := nobody)).leaves) id
  obtain ⟨⟨-, hb⟩, hq, -⟩ := m.of_run hrun
  obtain ⟨hboot, -⟩ := hq _ rfl
  generalize hresult : Except.ok () = result at hboot
  cases hboot with
  | brokeOff _ _ _ => cases hresult
  | @up ups _ hups c =>
    obtain ⟨listener, hc⟩ := c.records
    have hphase : h'.coordinator.phase = .running := by rw [hc]; rfl
    have hfailure : h'.coordinator.bootFailure = none := by rw [hc]; exact hu.2
    cases hb b with
    | underWay hu' _ => rw [hu'.1] at hphase; cases hphase
    | brokenOff hb' => rw [hfailure] at hb'; cases hb'
    | up l _ hl ha =>
      have hstarts : startsOf l = ups := by
        have hnone : startsOf h.doings = [] := by rw [← startsOf_early, he, startsOf_added]
        have hall := c.starts
        rw [hnone, List.nil_append, List.append_nil, ← startsOf_early, hl] at hall
        simpa [Deed.start?] using hall
      refine ⟨l, hl, ⟨by rw [hstarts, ha, hups], fun s hs => ?_⟩, ha, hphase, hfailure⟩
      obtain ⟨launched, decided, a, hr⟩ := (c.raised s (hstarts ▸ hs)).attempt
      exact a.after.readiness hr

theorem Stage.booted_by {result : Except BootError Unit} (s : Stage h)
    (hrun : Run E startAll h (.returned result) h') : Stage h' := by
  by_cases hu : h.Unbooted
  · cases s with
    | unbooted _ _ he =>
      cases result with
      | ok u =>
        obtain ⟨l, hl, u, -, hp, hb⟩ := hrun.startAll_first hE hu he
        exact .booted l [] (by rw [hp]; decide) hb hl u
      | error e =>
        have hboot := ((meets_startAll_first hE hu).of_run hrun).2.1 _ rfl
        cases hboot with
        | brokeOff _ _ c =>
          obtain ⟨listener, hc⟩ := c.records
          exact .failed (by rw [hc]; rfl)
    | booted _ _ hp _ _ _ => exact absurd hu.1 hp
    | failed hb => rw [hu.2] at hb; cases hb
  · exact s.collects (.of_leaves (hrun.startAll_refused hE hu))

end

/-! ## Histories -/

/-- The states between calls other than `run`, after which there is no coordinator. Any call may panic or be
dropped on the way, but for a boot. -/
inductive Carried (E : Host → Host → Prop) : Host → Prop where
  | fresh (h : Host) : h.Fresh → Carried E h
  | passed (h h' : Host) : Carried E h → Waits E [] h h' → Carried E h'
  | booted (h : Host) (result : Except BootError Unit) (h' : Host) : Carried E h →
      Run E startAll h (.returned result) h' → Carried E h'
  | called (h : Host) (c : Call) (out : Progress Unit) (h' : Host) : Carried E h → ¬ c.Boots →
      Run E c.routine h out h' → Carried E h'

/-- By induction over the calls. -/
theorem Carried.stage (hE : ∀ {a b}, E a b → Move anyone a b) (hc : Carried E h) : Stage h := by
  induction hc with
  | fresh h hf =>
    have hearly : h.early = [] := by rw [Host.early, Host.doings, Host.conduct, hf.history]; rfl
    have hphase : h.coordinator.phase = .notStarted := by rw [hf.coordinator]
    exact .unbooted (by rw [hphase]; decide) (by rw [hf.coordinator])
      (by rw [hearly, hf.coordinator]; rfl)
  | passed h h' _ w ih =>
    have m : Collects h h' := w.preserve (fun m c => c.trans (.of_move (hE m))) (fun m c => c.trans (.of_tick m))
      (.refl h)
    exact ih.collects m
  | booted h result h' _ hrun ih => exact ih.booted_by hE hrun
  | called h c out h' _ hn hrun ih => exact ih.collects (hrun.collects hE hn)

/-- After any calls, success of a boot tells that this call or an earlier one brought up everything that had
been added before it, or that the coordinator was shut down before there was a boot. -/
theorem success_tells_of_a_boot (hE : ∀ {a b}, E a b → Move anyone a b) (hc : Carried E h)
    (hrun : Run E startAll h (.returned (.ok ())) h') : Vouched h h' := by
  by_cases hu : h.Unbooted
  · cases hc.stage hE with
    | unbooted _ _ he =>
      obtain ⟨l, hl, u, ha, hp, -⟩ := hrun.startAll_first hE hu he
      have hstarts : startsOf h'.doings = startsOf l := by
        rw [← startsOf_early, hl, startsOf_append]
        exact List.append_nil _
      exact .booted hu (by rw [he, u.starts, ha]) hstarts u.ready hp
    | booted _ _ hp _ _ _ => exact absurd hu.1 hp
    | failed hb => rw [hu.2] at hb; cases hb
  · have m : Leaves h h' := hrun.startAll_refused hE hu
    cases hc.stage hE with
    | unbooted hp hb he =>
      refine .never ?_ he m.doings m.phase
      rintro (hn | hr)
      · exact hu ⟨hn, hb⟩
      · exact hp hr
    | booted l rs hp _ he u => exact .earlier l rs hp he (u.grows m.grows) m.doings m.phase
    | failed hb =>
      obtain ⟨name, hn⟩ := Option.isSome_iff_exists.1 hb
      have hq := ((meets_startAll_refused hE hu).of_run hrun).2.1 _ rfl
      rw [hn] at hq
      cases hq

/-! ## Fixed runs -/

/-- Two resources, of which the first was added. -/
def oneOfTwo : Host :=
  addResource 0 { coordinator := { config := { handleSignals := false } },
                  resources := [.scripted "p" {}, .scripted "q" {}] }

theorem carried_oneOfTwo : Carried (Move anyone) oneOfTwo :=
  (Carried.fresh _ ⟨rfl, rfl, rfl, rfl, rfl⟩).called _ (.add 0) _ _ id (.step .refl (.done _ _))

/-- The resource that was added is started. -/
theorem exists_boot_oneOfTwo : ∃ h : Host, Run (Move anyone) startAll oneOfTwo (.returned (.ok ())) h ∧
    h.doings = [.added 0, .start ⟨0, 0⟩, .up ⟨0, 0⟩, .booted (.ok ())] ∧ h.coordinator.phase = .running ∧
    h.coordinator.bootFailure = none := by
  apply Exists.intro
  refine ⟨?run, ?_⟩
  case run =>
    iterate 11 apply Run.step .refl
    apply Run.wait (i := 0) (.single (.inl (.ready _ 0))) ⟨_, rfl, rfl, fun _ => nofun⟩
    iterate 4 apply Run.step .refl
    exact .done _ _
  exact ⟨rfl, rfl, rfl⟩

theorem success_of_one_boot : ∃ h h' : Host, Carried (Move anyone) h ∧
    Run (Move anyone) startAll h (.returned (.ok ())) h' ∧ Vouched h h' := by
  obtain ⟨h', hrun, -⟩ := exists_boot_oneOfTwo
  exact ⟨oneOfTwo, h', carried_oneOfTwo, hrun, success_tells_of_a_boot id carried_oneOfTwo hrun⟩

/-- Every resource that was added before the call was started and came up. -/
def UpAsAdded (h h' : Host) : Prop :=
  ∀ r ∈ addsOf h.doings, ∃ s ∈ startsOf h'.doings, s.resource = r ∧ h'.readiness s.task = some (.ok ())

/-- A boot of this host would succeed without all of that being true. -/
def Misleading (h : Host) : Prop :=
  ∃ h', Run (Move anyone) startAll h (.returned (.ok ())) h' ∧ ¬ UpAsAdded h h'

/-- A boot that is refused succeeds without the resources that were not started. -/
theorem misleading_of_refused {r : ResourceId} (hn : ¬ h.Unbooted) (hb : h.coordinator.bootFailure = none)
    (hr : r ∈ addsOf h.doings) (hs : ∀ s ∈ startsOf h.doings, s.resource ≠ r) : Misleading h := by
  obtain ⟨result, h', hrun, hq⟩ := (meets_startAll_refused (E := Move anyone) id hn).exists_run trivial
    (fun _ => id) False.elim
  rw [hb] at hq
  obtain rfl : result = .ok () := hq
  refine ⟨h', hrun, fun u => ?_⟩
  obtain ⟨s, hmem, hres, -⟩ := u r hr
  rw [(hrun.startAll_refused id hn).doings] at hmem
  exact hs s hmem hres

/-- Boots succeed though a resource was not started: after a boot, after a shutdown, and after a boot that
was dropped on the way. -/
theorem success_without_a_start :
    (∃ h : Host, Carried (Move anyone) h ∧ h.coordinator.phase = .running ∧ Misleading h) ∧
    (∃ h : Host, Carried (Move anyone) h ∧ h.coordinator.phase = .stopped ∧ Misleading h) ∧
    ∃ h h' : Host, Carried (Move anyone) h ∧
      (∃ rest, Run (Move anyone) Call.startAll.routine h (.going rest) h') ∧ Misleading h' := by
  refine ⟨?afterBoot, ?afterShutdown, oneOfTwo, ?afterDrop⟩
  case afterBoot =>
    obtain ⟨h, hrun, hd, hp, hb⟩ := exists_boot_oneOfTwo
    have hc := (carried_oneOfTwo.booted _ _ _ hrun).called _ (.add 1) _ _ id (.step .refl (.done _ _))
    have hd' : (addResource 1 h).doings = h.doings ++ [.added 1] := Host.doings_record _ rfl
    have hn : ¬ (addResource 1 h).Unbooted := fun hu => by cases hp.symm.trans hu.1
    exact ⟨_, hc, hp, misleading_of_refused (r := 1) hn hb (by rw [hd', hd]; decide) (by rw [hd', hd]; decide)⟩
  case afterShutdown =>
    obtain ⟨h, hrun, hp, hb, hd⟩ : ∃ h, Run (Move anyone) (Call.shutdown .requested).routine oneOfTwo (.returned ()) h ∧
        h.coordinator.phase = .stopped ∧ h.coordinator.bootFailure = none ∧ 0 ∈ addsOf h.doings ∧
        startsOf h.doings = [] := by
      apply Exists.intro
      refine ⟨?run, ?_⟩
      case run =>
        iterate 8 apply Run.step .refl
        exact .done _ _
      exact ⟨rfl, rfl, by decide, rfl⟩
    have hc := carried_oneOfTwo.called _ (.shutdown .requested) _ _ id hrun
    have hn : ¬ h.Unbooted := fun hu => by cases hp.symm.trans hu.1
    exact ⟨h, hc, hp, misleading_of_refused hn hb hd.1 (by rw [hd.2]; decide)⟩
  case afterDrop =>
    apply Exists.intro
    refine ⟨carried_oneOfTwo, ⟨?rest, ?dropped⟩, ?again⟩
    case dropped =>
      iterate 11 apply Run.step .refl
      exact .waiting .refl
    case again =>
      apply Exists.intro
      refine ⟨?run, fun u => ?_⟩
      case run =>
        iterate 6 apply Run.step .refl
        exact .done _ _
      obtain ⟨s, hmem, -, hready⟩ := u 0 (by decide)
      obtain rfl : s = ⟨0, 0⟩ := List.mem_singleton.1 hmem
      cases hready

end ServiceHost.Lifecycle
