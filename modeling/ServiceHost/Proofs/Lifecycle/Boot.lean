import ServiceHost.Proofs.Lifecycle.Idle

/-! The boot: resources are started one after another, up to the first that does not come up. `Booting` is what
holds in the middle of a boot. -/

namespace ServiceHost.Lifecycle

open Relation Routine

variable {D : Instant → Prop} {P : Prop} {h h' h'' : Host} {w : List Started}
  {rest : List ResourceId} {r : ResourceId} {s : Started}

/-- What holds in the middle of a boot, with `rest` still to be started. -/
structure Booting (w : List Started) (rest : List ResourceId) (h : Host) : Prop extends
    Proper h, Upright w h where
  phase : h.coordinator.phase = .notStarted
  pending : h.coordinator.pending = []
  adds : (startsOf h.doings).map (·.resource) ++ rest = addsOf h.doings
  all : h.coordinator.started ++ w = startsOf h.doings
  unbooted : ∀ q, .booted q ∉ h.doings

theorem Booting.leaves (b : Booting w rest h) (m : Leaves h h') : Booting w rest h' where
  toProper := b.toProper.leaves m
  toUpright := b.toUpright.leaves b.toProper m
  phase := m.phase.trans b.phase
  pending := m.pending.trans b.pending
  adds := by rw [m.doings]; exact b.adds
  all := by rw [m.doings, m.started]; exact b.all
  unbooted := by rw [m.doings]; exact b.unbooted

/-! ## Steps of a boot -/

section
variable (h : Host) (r : ResourceId)

theorem Host.doings_launch :
    (h.launch r .coordinator).2.doings = h.doings ++ [.start ⟨r, h.tasks.length⟩] :=
  Host.doings_record _ rfl

theorem Host.startsOf_launch : startsOf (h.launch r .coordinator).2.doings =
    startsOf h.doings ++ [⟨r, h.tasks.length⟩] := by
  simp [h.doings_launch, Deed.start?]

theorem Host.outcome?_launch (t : TaskId) :
    (h.launch r .coordinator).2.outcome? t = h.outcome? t :=
  h.outcome?_spawn _ t

end

/-- The next resource is started. -/
theorem Booting.launch (b : Booting [] (r :: rest) h) :
    Booting [⟨r, h.tasks.length⟩] rest (h.launch r .coordinator).2 := by
  have hst := h.startsOf_launch r
  have hall : h.coordinator.started = startsOf h.doings := (List.append_nil _).symm.trans b.all
  have hkept : ∀ {d}, d ∈ h.doings → d ∈ (h.launch r .coordinator).2.doings := fun hd => by
    rw [h.doings_launch]
    exact List.mem_append_left _ hd
  have hnew : ∀ {d}, d ∈ (h.launch r .coordinator).2.doings → (∀ s, d ≠ .start s) → d ∈ h.doings := by
    intro d hd hs
    rw [h.doings_launch] at hd
    exact (List.mem_append.1 hd).resolve_right fun hd => hs _ (List.mem_singleton.1 hd)
  exact
    { books := b.books.launch r
      orderly := by
        rw [h.doings_launch]
        refine b.orderly.concat ⟨?_, fun x hx => b.up x (hall ▸ hx), b.running⟩
        rw [← b.adds]
        exact ⟨rest, by simp⟩
      stopping := fun hp => hkept (b.stopping hp)
      held := by rw [hst, ← hall]; exact List.Sublist.refl _
      up := fun x hx => hkept (b.up x hx)
      distinct := by
        rw [hst, List.map_append]
        refine List.nodup_append.2 ⟨b.distinct, List.pairwise_singleton .., ?_⟩
        intro t ht u hu
        obtain ⟨x, hx, rfl⟩ := List.mem_map.1 ht
        rw [List.mem_singleton.1 hu]
        have hj := b.toUpright.job? b.toProper (List.mem_append_left _ (hall ▸ hx))
        exact Nat.ne_of_lt (Host.lt_of_job? hj)
      alive := fun x hx => by
        rw [h.outcome?_launch]
        exact b.alive x hx
      others := fun x hx => .inl (by rwa [hst, ← hall] at hx)
      unclosed := by simp [h.doings_launch, b.unclosed, Deed.close?]
      running := fun hs => b.running (hnew hs nofun)
      phase := b.phase
      pending := b.pending
      adds := by
        rw [hst, h.doings_launch, addsOf_append, ← b.adds]
        simp [Deed.added?]
      all := by rw [hst, ← hall]; rfl
      unbooted := fun q hq => b.unbooted q (hnew hq nofun) }

/-- The resource on its way came up. -/
theorem Booting.cameUp (b : Booting [s] rest h) (hr : h.readiness s.task = some (.ok ()))
    (ha : h.outcome? s.task ≠ some .aborted) :
    Booting [] rest
      ((h.modifyCoordinator fun c => { c with started := c.started ++ [s] }).record (.up s)) := by
  have hmem : s ∈ startsOf h.doings := by
    rw [← b.all]
    exact List.mem_append_right _ List.mem_cons_self
  have p : Proper ((h.modifyCoordinator fun c => { c with started := c.started ++ [s] }).record (.up s)) :=
    (b.toProper.modifyCoordinator rfl).record rfl (by rintro _ ⟨⟩) (by rintro _ ⟨⟩; exact hr)
      (by rintro _ ⟨⟩) hmem
  generalize hg : h.modifyCoordinator (fun c => { c with started := c.started ++ [s] }) = g at p ⊢
  have hstarted : g.coordinator.started = h.coordinator.started ++ [s] := by rw [← hg]; rfl
  have hd : (g.record (.up s)).doings = h.doings ++ [.up s] := by
    rw [← hg]
    exact Host.doings_record _ rfl
  have hst : startsOf (g.record (.up s)).doings = startsOf h.doings := by simp [hd, Deed.start?]
  have ho : ∀ t, (g.record (.up s)).outcome? t = h.outcome? t := by rw [← hg]; exact fun _ => rfl
  have hall : (g.record (.up s)).coordinator.started ++ [] = startsOf (g.record (.up s)).doings := by
    rw [hst, ← b.all, ← hstarted, List.append_nil]
    rfl
  exact
    { p with
      held := by rw [hall]
      up := fun x hx => by
        rw [hd]
        rcases List.mem_append.1 (hstarted ▸ hx : x ∈ h.coordinator.started ++ [s]) with hx | hx
        · exact List.mem_append_left _ (b.up x hx)
        · rw [List.mem_singleton.1 hx]
          exact List.mem_append_right _ List.mem_cons_self
      alive := fun x hx => by
        rw [ho]
        rcases List.mem_append.1 (hstarted ▸ hx : x ∈ h.coordinator.started ++ [s]) with hx | hx
        · exact b.alive x hx
        · rw [List.mem_singleton.1 hx]
          exact ha
      others := fun x hx => .inl (by rwa [hall])
      unclosed := by simp [hd, b.unclosed, Deed.close?]
      running := by simp [hd, b.running]
      phase := by rw [← hg]; exact b.phase
      pending := by rw [← hg]; exact b.pending
      adds := by
        rw [hst, hd, addsOf_append, ← b.adds]
        simp [Deed.added?]
      all := hall
      unbooted := by simpa [hd] using b.unbooted }

/-- Of the resources on their way the starts have ended. -/
theorem Upright.over (u : Upright w h) (hw : ∀ x ∈ w, h.isEnded x.task = true) : Upright [] h :=
  { u with
    held := by
      rw [List.append_nil]
      exact (List.sublist_append_left _ _).trans u.held
    others := fun x hx => by
      rw [List.append_nil]
      rcases u.others x hx with hmem | he
      · exact (List.mem_append.1 hmem).imp_right (hw x)
      · exact .inr he }

/-- The boot is over. -/
theorem Booting.over {g : Host} {q : Except BootError Unit} (b : Booting w rest h)
    (hw : ∀ x ∈ w, h.isEnded x.task = true) (ht : g.tasks = h.tasks) (hh : g.history = h.history)
    (hreg : g.registry = h.registry) (hs : g.coordinator.started = h.coordinator.started)
    (hp : g.coordinator.phase = .notStarted ∧ g.coordinator.bootFailure.isSome ∨
      g.coordinator.phase = .running) : Idle (g.record (.booted q)) := by
  have hd : (g.record (.booted q)).doings = h.doings ++ [.booted q] := by
    rw [g.doings_record rfl, Host.doings_congr hh]
  have hp' : (g.record (.booted q)).coordinator.phase = g.coordinator.phase := rfl
  exact
    { books := (b.books.of_same ht hh hreg).record rfl (by rintro _ ⟨⟩) (by rintro _ ⟨⟩)
        (by rintro _ ⟨⟩)
      orderly := by rw [hd]; exact b.orderly.concat trivial
      distinct := by simpa [hd, Deed.start?] using b.distinct
      stopping := fun hstop => by
        rw [hp'] at hstop
        rcases hp with ⟨hp, -⟩ | hp <;> rw [hp] at hstop <;> simp at hstop
      fresh := fun hn hb => by
        rcases hp with ⟨-, hf⟩ | hp
        · rw [show g.coordinator.bootFailure = none from hb] at hf
          cases hf
        · rw [hp', hp] at hn
          cases hn
      upright := fun _ => (b.toUpright.over hw).concat hd rfl rfl (by rintro ⟨⟩) hs ht }

/-! ## What a boot does to the rest of the host -/

/-- Deeds of a boot. -/
def Deed.isBoot : Deed → Bool
  | start _ | up _ | booted _ => true
  | _ => false

/-- Deeds of the time before the coordinator waits for a reason to stop. -/
def Deed.isEarly (d : Deed) : Bool := d.added?.isSome || d.isBoot

/-- What a boot keeps to: it hears of no exit, drains nothing and closes nothing. -/
def Boots (D : Instant → Prop) (P : Prop) (h h' : Host) : Prop :=
  ∃ l : List (Instant × Deed), (∀ x ∈ l, x.2.isBoot = true) ∧ Keeps D P l h h'

namespace Boots

theorem trans (b : Boots D P h h') (b' : Boots D P h' h'') : Boots D P h h'' := by
  obtain ⟨l, hl, k⟩ := b
  obtain ⟨l', hl', k'⟩ := b'
  exact ⟨l ++ l', fun x hx => (List.mem_append.1 hx).elim (hl x) (hl' x), k.trans k'⟩

theorem of_keeps (k : Keeps D P [] h h') : Boots D P h h' := ⟨[], nofun, k⟩

theorem refl (h : Host) : Boots D P h h := of_keeps (.refl h)

theorem record (h : Host) {d : Deed} (hd : d.isBoot = true) : Boots D P h (h.record d) := by
  have hown : d.isForeign = false := by cases d <;> first | rfl | cases hd
  exact ⟨_, fun x hx => by rwa [List.mem_singleton.1 hx], .record h hown⟩

theorem launch (h : Host) (r : ResourceId) : Boots D P h (h.launch r .coordinator).2 :=
  (of_keeps (.spawn h (by rintro _ _ ⟨⟩))).trans (record _ rfl)

theorem recordStart (h : Host) (o : StartOutcome) (e : Event) : Boots D P h (recordStart o e h) :=
  of_keeps (.of_records (.of_same rfl rfl rfl rfl List.prefix_rfl) rfl rfl rfl rfl rfl rfl)

end Boots

/-! ## The routines of a boot -/

/-- The terms of a boot. -/
abbrev bootTerms (D : Instant → Prop) (P : Prop) : Terms :=
  { rely := Peers D P, guar := Boots D P, always := Proper, timely := True, loops := False,
    panics := fun _ => False }

/-- What comes of the start of one resource, with `rest` still to be started. -/
def CameUp (rest : List ResourceId) (result : Except BootError Started) (h : Host) : Prop :=
  match result with
  | .ok s => Booting [s] rest h ∧ h.readiness s.task = some (.ok ()) ∧
      h.outcome? s.task ≠ some .aborted
  | .error _ => ∃ w rest, Booting w rest h ∧ ∀ x ∈ w, h.isEnded x.task = true

theorem Leaves.recordStart (h : Host) (o : StartOutcome) (e : Event) : Leaves h (recordStart o e h) :=
  .of_same rfl rfl (fun _ => rfl) rfl rfl rfl rfl rfl rfl

theorem Booting.failed {e : BootError} (b : Booting w rest h) (hw : ∀ x ∈ w, h.isEnded x.task = true)
    (f : Frame D [] [] h h') (rest' : List ResourceId) : CameUp rest' (.error e) h' :=
  ⟨w, rest, b.leaves f.leaves, fun x hx => f.grows.isEnded (hw x hx)⟩

/-- The start of a resource that did not come up in time is aborted. -/
theorem Booting.abort (b : Booting [s] rest h) : Booting [s] rest (h.abort s.task) where
  books := b.books.finish fun _ _ _ => nofun
  orderly := b.orderly
  stopping := b.stopping
  held := b.held
  up := b.up
  distinct := b.distinct
  alive x hx ho := by
    refine b.alive x hx ?_
    by_cases hne : s.task = x.task
    · have hst : (h.coordinator.started ++ [s]).map (·.task) = (startsOf h.doings).map (·.task) := by
        rw [b.all]
      have hnodup := hst ▸ b.distinct
      rw [List.map_append, List.nodup_append] at hnodup
      exact absurd hne.symm (hnodup.2.2 _ (List.mem_map_of_mem hx) _ List.mem_cons_self)
    · rwa [Host.abort, Host.outcome?_finish_of_ne hne] at ho
  others x hx := (b.others x hx).imp_right (h.grows_finish s.task .aborted).isEnded
  unclosed := b.unclosed
  running := b.running
  phase := b.phase
  pending := b.pending
  adds := b.adds
  all := b.all
  unbooted := b.unbooted

section
variable (hj : h.job? s.task = some (.start s.resource .coordinator))
include hj

theorem meets_judgeReport {name : String} {report : Option (Except ResourceError Unit)}
    (b : Booting [s] rest h) (ha : h.outcome? s.task ≠ some .aborted)
    (hr : h.readiness s.task = report ∨ report = none)
    (hended : report = none → h.isEnded s.task = true) :
    (judgeReport s.resource name s.task report).Meets (bootTerms D P) (CameUp rest) h := by
  have hb : ∀ {o e}, Booting [s] rest (Lifecycle.recordStart o e h) := fun {o e} =>
    b.leaves (.recordStart h o e)
  match report with
  | some (.ok ()) =>
    refine meets_update.2 ⟨b.toProper, .recordStart h _ _, ?_⟩
    intro h' o
    have hready : h'.readiness s.task = some (.ok ()) :=
      o.frame.grows.readiness (hr.resolve_right nofun)
    have halive : h'.outcome? s.task ≠ some .aborted := fun ho =>
      ha (o.frame.leaves.start hj ho)
    exact ⟨(hb.leaves o.frame.leaves).toProper, hb.leaves o.frame.leaves, hready, halive⟩
  | some (.error e) =>
    refine meets_update.2 ⟨b.toProper, .recordStart h _ _, ?_⟩
    intro h' o
    have he : h.isEnded s.task = true := by
      have hcame := b.books.failed (hr.resolve_right nofun)
      rw [Host.isEnded, b.books.ended hcame]
      rfl
    refine ⟨(hb.leaves o.frame.leaves).toProper, hb.failed (fun x hx => ?_) o.frame rest⟩
    rwa [List.mem_singleton.1 hx]
  | none =>
    refine meets_update.2 ⟨b.toProper, .recordStart h _ _, ?_⟩
    intro h' o
    refine ⟨(hb.leaves o.frame.leaves).toProper, hb.failed (fun x hx => ?_) o.frame rest⟩
    rw [List.mem_singleton.1 hx]
    exact hended rfl

theorem meets_giveUp {o : StartOutcome} {ev : Event} {e : BootError} (b : Booting [s] rest h) :
    (do update fun g => recordStart o ev (g.abort s.task)
        return .error e : Routine (Except BootError Started)).Meets (bootTerms D P) (CameUp rest)
      h := by
  refine meets_update.2 ⟨b.toProper, (Boots.of_keeps (.abort h s.task)).trans (.recordStart _ _ _), ?_⟩
  intro h' m
  have b' : Booting [s] rest (recordStart o ev (h.abort s.task)) :=
    b.abort.leaves (.recordStart _ o ev)
  refine ⟨(b'.leaves m.frame.leaves).toProper, b'.failed (fun x hx => ?_) m.frame rest⟩
  rw [List.mem_singleton.1 hx]
  exact Host.isEnded_finish_self hj

end

theorem meets_startResource {ms : Nat} (b : Booting [] (r :: rest) h) :
    (startResource r .coordinator ms).Meets (bootTerms D P) (CameUp rest) h := by
  refine meets_read.2 ⟨b.toProper, .refl h, ?_⟩
  intro h₁ o₁
  have b₁ : Booting [] (r :: rest) h₁ := b.leaves o₁.frame.leaves
  refine meets_update.2 ⟨b₁.toProper, .of_keeps (.emit h₁ _), ?_⟩
  intro h₂ o₂
  have b₂ : Booting [] (r :: rest) h₂ :=
    b₁.leaves ((Frame.emit (D := D) h₁ _).leaves.trans o₂.frame.leaves)
  refine meets_act.2 ⟨b₂.toProper, .launch h₂ r, ?_⟩
  intro h₃ o₃
  rw [show (h₂.launch r .coordinator).1 = h₂.tasks.length from rfl]
  have b₃ : Booting [⟨r, h₂.tasks.length⟩] rest h₃ := b₂.launch.leaves o₃.frame.leaves
  refine meets_read.2 ⟨b₃.toProper, .refl h₃, ?_⟩
  intro h₄ o₄
  refine meets_waitAny.2 ⟨fun _ => ⟨h₃.now + ms, by simp⟩, ?_⟩
  intro h₅ m
  have f₅ : Frame D [] [] (h₂.launch r .coordinator).2 h₅ :=
    (o₃.frame.trans o₄.frame).trans m.frame
  have b₅ : Booting [⟨r, h₂.tasks.length⟩] rest h₅ := b₂.launch.leaves f₅.leaves
  have hj : (h₂.launch r .coordinator).2.job? h₂.tasks.length = some (.start r .coordinator) :=
    (h₂.job?_spawn _ _).trans (if_pos rfl)
  have hj₅ : h₅.job? h₂.tasks.length = some (.start r .coordinator) := f₅.grows.job? hj
  have ha₅ : h₅.outcome? h₂.tasks.length ≠ some .aborted := fun ho => by
    have hnone := f₅.leaves.start hj ho
    rw [h₂.outcome?_launch, Host.outcome?_eq_none h₂.job?_eq_none] at hnone
    cases hnone
  refine ⟨b₅.toProper, ?_⟩
  intro i hi
  rcases picks_start hi with ⟨rfl, hended⟩ | ⟨rfl, -⟩ | ⟨rfl, -⟩
  · refine meets_read.2 ⟨b₅.toProper, .refl h₅, ?_⟩
    intro h₆ o₆
    have b₆ : Booting [⟨r, h₂.tasks.length⟩] rest h₆ := b₅.leaves o₆.frame.leaves
    refine meets_judgeReport (o₆.frame.grows.job? hj₅) b₆
      (fun ho => ha₅ (o₆.frame.leaves.start hj₅ ho)) ?_ ?_
    · cases hr : h₅.readiness h₂.tasks.length with
      | none => exact .inr rfl
      | some q => exact .inl (o₆.frame.grows.readiness hr)
    · exact fun hnone => o₆.frame.grows.isEnded (hended hnone)
  · exact meets_giveUp (s := ⟨r, h₂.tasks.length⟩) hj₅ b₅
  · refine meets_read.2 ⟨b₅.toProper, .refl h₅, ?_⟩
    intro h₆ o₆
    exact meets_giveUp (s := ⟨r, h₂.tasks.length⟩) (o₆.frame.grows.job? hj₅)
      (b₅.leaves o₆.frame.leaves)

theorem meets_startNext (b : Booting [] (r :: rest) h) :
    (startNext r).Meets (bootTerms D P) (CameUp rest) h := by
  refine meets_read.2 ⟨b.toProper, .refl h, ?_⟩
  intro h₁ o₁
  have b₁ : Booting [] (r :: rest) h₁ := b.leaves o₁.frame.leaves
  split
  · refine meets_read.2 ⟨b₁.toProper, .refl h₁, ?_⟩
    intro h₂ o₂
    exact ⟨(b₁.leaves o₂.frame.leaves).toProper, b₁.failed nofun o₂.frame rest⟩
  · refine meets_read.2 ⟨b₁.toProper, .refl h₁, ?_⟩
    intro h₂ o₂
    exact meets_startResource (b₁.leaves o₂.frame.leaves)

/-- How a boot ended. -/
structure BootedBy (result : Except BootError Unit) (h : Host) : Prop where
  told : ∃ l, h.doings = l ++ [.booted result] ∧ ∀ q, .booted q ∉ l
  phase : h.coordinator.phase = if result = .ok () then .running else .notStarted
  all : result = .ok () → h.coordinator.started = startsOf h.doings

/-- The boot ended at a resource. -/
theorem Booting.broken {e : BootError} {left : Nat} (b : Booting w rest h)
    (hw : ∀ x ∈ w, h.isEnded x.task = true)
    (f : Frame D [] [] (((h.emit (.bootAborted e left)).modifyCoordinator fun c =>
      { c with bootFailure := some e.resource }).record (.booted (.error e))) h') :
    Idle h' ∧ BootedBy (.error e) h' := by
  have i := b.over (q := .error e) (g := (h.emit (.bootAborted e left)).modifyCoordinator fun c =>
    { c with bootFailure := some e.resource }) hw rfl rfl rfl rfl (.inl ⟨b.phase, rfl⟩)
  refine ⟨i.leaves f.leaves, ⟨h.doings, ?_, b.unbooted⟩, ?_, nofun⟩
  · rw [f.doings]
    exact Host.doings_record _ rfl
  · rw [f.coordinator]
    exact b.phase

/-- Every resource came up. -/
theorem Booting.done {count : Nat} (b : Booting [] [] h)
    (f : Frame D [] [] (((h.enter .running).emit (.bootDone count)).record (.booted (.ok ()))) h') :
    Idle h' ∧ BootedBy (.ok ()) h' := by
  have i := b.over (q := .ok ()) (g := (h.enter .running).emit (.bootDone count)) nofun rfl rfl rfl rfl
    (.inr rfl)
  have hd : h'.doings = h.doings ++ [.booted (.ok ())] := by
    rw [f.doings]
    exact Host.doings_record _ rfl
  have hstarted : h'.coordinator.started = h.coordinator.started := by
    rw [f.coordinator]
    rfl
  refine ⟨i.leaves f.leaves, ⟨h.doings, hd, b.unbooted⟩, by rw [f.coordinator]; rfl, ?_⟩
  intro _
  rw [hstarted, hd, startsOf_append, ← b.all]
  simp [Deed.start?]

theorem meets_startEach {rs : List ResourceId} (b : Booting [] rs h) :
    (startEach rs).Meets (bootTerms D P) (fun result h' => match result with
      | .ok () => Booting [] [] h'
      | .error e => Idle h' ∧ BootedBy (.error e) h') h := by
  induction rs generalizing h with
  | nil => exact ⟨b.toProper, b⟩
  | cons r rest ih =>
    refine (meets_startNext b).andThen ?_
    intro result h₁ _ hc
    cases result with
    | ok s =>
      obtain ⟨b₁, hr, ha⟩ := hc
      refine meets_update.2 ⟨b₁.toProper, ?_, ?_⟩
      · exact (Boots.of_keeps (.modifyCoordinator h₁ rfl)).trans (.record _ rfl)
      · intro h₂ o₂
        exact ih ((b₁.cameUp hr ha).leaves o₂.frame.leaves)
    | error e =>
      obtain ⟨w, rest', b₁, hw⟩ := hc
      refine meets_update.2 ⟨b₁.toProper, ?_, ?_⟩
      · exact (Boots.of_keeps ((Keeps.emit h₁ _).trans (.modifyCoordinator _ rfl))).trans (.record _ rfl)
      · intro h₂ o₂
        obtain ⟨i₂, hb⟩ := b₁.broken hw o₂.frame
        exact ⟨i₂.toProper, i₂, hb⟩

theorem leaves_listen (h : Host) : Leaves h (listen h) := by
  unfold listen
  split
  · exact (Leaves.spawn h (by rintro _ ⟨⟩)).trans (.of_same rfl rfl (fun _ => rfl) rfl rfl rfl rfl rfl rfl)
  · exact .of_same rfl rfl (fun _ => rfl) rfl rfl rfl rfl rfl rfl

theorem keeps_listen (h : Host) : Keeps D P [] h (listen h) := by
  unfold listen
  split
  · exact (Keeps.spawn h (by rintro _ _ ⟨⟩)).trans (.modifyCoordinator _ rfl)
  · exact .refl h

/-- What was added is to be started. -/
theorem Idle.takePending (i : Idle h) (hp : h.coordinator.phase = .notStarted)
    (hb : h.coordinator.bootFailure = none) :
    Booting [] h.coordinator.pending (takePending h).2 := by
  have u : Upright [] h := i.upright (.inl hp)
  obtain ⟨hst, hadds, hun⟩ := i.fresh hp hb
  have hnone : h.coordinator.started = [] := by
    have hsub := u.held
    rw [hst, List.append_nil] at hsub
    exact List.sublist_nil.1 hsub
  exact
    { toProper := i.toProper.modifyCoordinator (f := fun c => { c with pending := [] }) rfl
      held := u.held
      up := u.up
      alive := u.alive
      others := u.others
      unclosed := u.unclosed
      running := u.running
      phase := hp
      pending := rfl
      adds := by
        rw [show (Lifecycle.takePending h).2.doings = h.doings from rfl, hst, hadds]
        rfl
      all := by
        rw [show (Lifecycle.takePending h).2.doings = h.doings from rfl, hst]
        rw [show (Lifecycle.takePending h).2.coordinator.started = _ from hnone]
        rfl
      unbooted := hun }

/-- A boot leaves the coordinator between two calls, and when it is the first says how it ended. -/
theorem meets_startAll (i : Idle h) :
    startAll.Meets (bootTerms D P) (fun result h' => Idle h' ∧
      (h.coordinator.phase = .notStarted → h.coordinator.bootFailure = none →
        BootedBy result h')) h := by
  refine meets_read.2 ⟨i.toProper, .refl h, ?_⟩
  intro h₁ o₁
  have i₁ : Idle h₁ := i.leaves o₁.frame.leaves
  split
  · next name hname => exact ⟨i₁.toProper, i₁, fun _ hb => by rw [hname] at hb; cases hb⟩
  · next hname =>
    refine meets_read.2 ⟨i₁.toProper, .refl h₁, ?_⟩
    intro h₂ o₂
    have i₂ : Idle h₂ := i₁.leaves o₂.frame.leaves
    split
    · next hphase =>
      have hphase' : h.coordinator.phase ≠ .notStarted := by rwa [← o₁.frame.coordinator]
      refine meets_update.2 ⟨i₂.toProper, .of_keeps (.emit h₂ _), ?_⟩
      intro h₃ o₃
      have i₃ : Idle h₃ := i₂.leaves ((Frame.emit (D := D) h₂ _).leaves.trans o₃.frame.leaves)
      exact ⟨i₃.toProper, i₃, fun hp => absurd hp hphase'⟩
    · next hphase =>
      have hphase₂ : h₂.coordinator.phase = .notStarted := by
        rw [o₂.frame.coordinator]
        exact Decidable.not_not.1 hphase
      refine meets_update.2 ⟨i₂.toProper, .of_keeps (keeps_listen h₂), ?_⟩
      intro h₃ o₃
      have m₃ : Leaves h₂ h₃ := (leaves_listen h₂).trans o₃.frame.leaves
      have i₃ : Idle h₃ := i₂.leaves m₃
      have hboot₃ : h₃.coordinator.bootFailure = none := by
        rw [m₃.bootFailure, o₂.frame.coordinator, o₁.frame.coordinator]
        exact hname
      have b₃ := i₃.takePending (m₃.phase.trans hphase₂) hboot₃
      have hpending : Keeps D P [] h₃ (takePending h₃).2 :=
        .modifyCoordinator h₃ (f := fun c => { c with pending := [] }) rfl
      refine meets_act.2 ⟨i₃.toProper, .of_keeps hpending, ?_⟩
      intro h₄ o₄
      have b₄ : Booting [] h₃.coordinator.pending h₄ := b₃.leaves o₄.frame.leaves
      refine meets_update.2 ⟨b₄.toProper, .of_keeps (.emit h₄ _), ?_⟩
      intro h₅ o₅
      have b₅ : Booting [] h₃.coordinator.pending h₅ :=
        b₄.leaves ((Frame.emit (D := D) h₄ _).leaves.trans o₅.frame.leaves)
      refine (meets_startEach b₅).andThen ?_
      intro result h₆ _ hr
      cases result with
      | error e => exact ⟨hr.1.toProper, hr.1, fun _ _ => hr.2⟩
      | ok u =>
        have b₆ : Booting [] [] h₆ := hr
        refine meets_update.2 ⟨b₆.toProper, ?_, ?_⟩
        · exact (Boots.of_keeps ((Keeps.modifyCoordinator h₆ rfl).trans (.emit _ _))).trans (.record _ rfl)
        · intro h₇ o₇
          obtain ⟨i₇, hb⟩ := b₆.done o₇.frame
          exact ⟨i₇.toProper, i₇, fun _ _ => hb⟩

end ServiceHost.Lifecycle
