import ServiceHost.Proofs.Lifecycle.History

/-! What the table of tasks, the registry and the history say about each other, in every host that a
coordinator and the others around it can reach. Each operation of the host keeps the books. -/

namespace ServiceHost.Lifecycle

/-! ## A start that comes back -/

/-- From `h` to `h'` the start on `t` came back, which its report or an exit tells. -/
structure CameBack (t : TaskId) (audience : Audience) (result : Except ResourceError Unit)
    (h h' : Host) : Prop where
  grows : h.Grows h'
  registry : h'.registry = h.registry
  job : ∀ u, h'.job? u = h.job? u
  self : h'.outcome? t = some (.returned (.ok ()))
  other : ∀ u, t ≠ u → h'.outcome? u = h.outcome? u
  failed : ∀ u e, h'.readiness u = some (.error e) →
    h.readiness u = some (.error e) ∨ u = t ∧ result = .error e
  deeds : ∃ l, h'.deeds = h.deeds ++ .came t result :: l ∧
    (∀ x ∈ l, audience = .coordinator ∧ ∃ name, x = .exit ⟨name, result⟩) ∧
    (audience = .coordinator → h'.readiness t = some result ∨ ∃ name, .exit ⟨name, result⟩ ∈ l)

section
variable {h h' : Host} {t : TaskId} {r : ResourceId} {audience : Audience}
  {result : Except ResourceError Unit}

theorem Host.cameBack (hj : h.job? t = some (.start r audience)) (hn : h.isEnded t = false) :
    CameBack t audience result h ((h.settle t r audience result).finish t (.returned (.ok ()))) := by
  have g : h.Grows ((h.settle t r audience result).finish t (.returned (.ok ()))) :=
    (h.grows_settle ..).trans (Host.grows_finish ..)
  generalize hh' : (h.settle t r audience result).finish t (.returned (.ok ())) = h' at g ⊢
  suffices hs : (∀ u e, h'.readiness u = some (.error e) →
        h.readiness u = some (.error e) ∨ u = t ∧ result = .error e) ∧
      ∃ l, h'.deeds = h.deeds ++ .came t result :: l ∧
        (∀ x ∈ l, audience = .coordinator ∧ ∃ name, x = .exit ⟨name, result⟩) ∧
        (audience = .coordinator →
          h'.readiness t = some result ∨ ∃ name, .exit ⟨name, result⟩ ∈ l) from
    { grows := g
      registry := by rw [← hh', Host.settle_only]; rfl
      job := fun u => by rw [← hh', Host.job?_finish, Host.job?_settle]
      self := by
        rw [← hh', Host.outcome?_finish_self ((Host.job?_settle ..).trans hj)]
        rw [Host.isEnded, Host.outcome?_settle]
        exact hn
      other := fun u hne => by rw [← hh', Host.outcome?_finish_of_ne hne, Host.outcome?_settle]
      failed := hs.1
      deeds := hs.2 }
  rcases Host.settle_cases hj r audience result with ⟨-, hs⟩ | ⟨-, hs⟩
  · have hr : ∀ u, h'.readiness u = if t = u then some result else h.readiness u := by
      intro u
      rw [← hh', Host.readiness_finish, hs, Host.readiness, Host.task?_modifyTask]
      obtain ⟨a, ha, -⟩ := Option.map_eq_some_iff.1 hj
      split
      · next htu => subst htu; simp [Host.record, Host.task?, show h.tasks[t]? = some a from ha]
      · rfl
    refine ⟨?_, [], ?_, by simp, fun _ => .inl (by rw [hr, if_pos rfl])⟩
    · intro u e hu
      rw [hr] at hu
      split at hu
      · next htu => exact .inr ⟨htu.symm, Option.some.inj hu⟩
      · exact .inl hu
    · rw [← hh', hs]
      exact h.deeds_record _
  · have hr : ∀ u, h'.readiness u = h.readiness u := by
      intro u
      rw [← hh', Host.readiness_finish, hs]
      cases audience <;> rfl
    refine ⟨fun u e hu => .inl (hr u ▸ hu),
      if audience = .coordinator then [.exit ⟨h.resourceName r, result⟩] else [], ?_, ?_, ?_⟩
    · rw [← hh', hs]
      cases audience with
      | direct => exact h.deeds_record _
      | coordinator =>
        refine (Host.deeds_record _ _).trans ?_
        exact (congrArg (· ++ _) (h.deeds_record (.came t result))).trans (List.append_assoc ..)
    · intro x hx
      split at hx
      · next ha => exact ⟨ha, _, List.mem_singleton.1 hx⟩
      · cases hx
    · intro ha
      rw [if_pos ha]
      exact .inr ⟨h.resourceName r, List.mem_singleton_self _⟩

namespace CameBack

variable (m : CameBack t audience result h h')
include m

theorem told : .came t result ∈ h'.deeds := by
  obtain ⟨l, hd, -⟩ := m.deeds
  simp [hd]

/-- What the coordinator itself did is what it was. -/
theorem own {x : Deed} (hx : x.isForeign = false) : x ∈ h'.deeds ↔ x ∈ h.deeds := by
  obtain ⟨l, hd, hl, -⟩ := m.deeds
  refine ⟨fun hmem => ?_, m.grows.mem_deeds⟩
  rw [hd, List.mem_append, List.mem_cons] at hmem
  rcases hmem with hmem | rfl | hmem
  · exact hmem
  · cases hx
  · obtain ⟨-, name, rfl⟩ := hl x hmem
    cases hx

theorem came {u : TaskId} {q : Except ResourceError Unit} (hc : .came u q ∈ h'.deeds) :
    .came u q ∈ h.deeds ∨ u = t ∧ q = result := by
  obtain ⟨l, hd, hl, -⟩ := m.deeds
  rw [hd, List.mem_append, List.mem_cons] at hc
  rcases hc with hc | hc | hc
  · exact .inl hc
  · cases hc
    exact .inr ⟨rfl, rfl⟩
  · obtain ⟨-, name, hx⟩ := hl _ hc
    cases hx

theorem exit {e : Exit} (he : .exit e ∈ h'.deeds) :
    .exit e ∈ h.deeds ∨ audience = .coordinator ∧ e.result = result := by
  obtain ⟨l, hd, hl, -⟩ := m.deeds
  rw [hd, List.mem_append, List.mem_cons] at he
  rcases he with he | he | he
  · exact .inl he
  · cases he
  · obtain ⟨ha, name, hx⟩ := hl _ he
    cases hx
    exact .inr ⟨ha, rfl⟩

/-- The coordinator can tell what the start came back with. -/
theorem heard (ha : audience = .coordinator) :
    h'.readiness t = some result ∨ ∃ name, .exit ⟨name, result⟩ ∈ h'.deeds := by
  obtain ⟨l, hd, -, hl⟩ := m.deeds
  refine (hl ha).imp_right fun ⟨name, hx⟩ => ⟨name, ?_⟩
  rw [hd]
  exact List.mem_append_right _ (List.mem_cons_of_mem _ hx)

theorem accepts : h'.accepts = h.accepts := by
  obtain ⟨l, hd, hl, -⟩ := m.deeds
  have hnone : l.filterMap Deed.accepted? = [] := by
    refine List.filterMap_eq_nil_iff.2 ?_
    intro x hx
    obtain ⟨-, name, rfl⟩ := hl x hx
    rfl
  rw [Host.accepts, hd, List.filterMap_append, List.filterMap_cons_none rfl, hnone,
    List.append_nil, Host.accepts]

end CameBack

end

/-! ## The books -/

structure Books (h : Host) : Prop where
  started : ∀ {r t}, h.job? t = some (.start r .coordinator) ↔ .start ⟨r, t⟩ ∈ h.deeds
  ended : ∀ {t q}, .came t q ∈ h.deeds → h.outcome? t = some (.returned (.ok ()))
  once : ∀ {t q q'}, .came t q ∈ h.deeds → .came t q' ∈ h.deeds → q = q'
  /-- A start task returns only when its start came back. -/
  came : ∀ {r t v}, h.job? t = some (.start r .coordinator) →
    h.outcome? t = some (.returned v) → ∃ q, .came t q ∈ h.deeds
  failed : ∀ {t e}, h.readiness t = some (.error e) → .came t (.error e) ∈ h.deeds
  /-- What a start came back with is its report or an exit. -/
  told : ∀ {r t q}, h.job? t = some (.start r .coordinator) → .came t q ∈ h.deeds →
    h.readiness t = some q ∨ ∃ name, .exit ⟨name, q⟩ ∈ h.deeds
  exit : ∀ {e}, .exit e ∈ h.deeds →
    ∃ r t, h.job? t = some (.start r .coordinator) ∧ .came t e.result ∈ h.deeds
  up : ∀ {s}, .up s ∈ h.deeds → h.readiness s.task = some (.ok ())
  settled : ∀ {s}, .settled s ∈ h.deeds → h.isEnded s.task = true
  roll : h.registry.closed = false → h.registry.actions = h.accepts

namespace Books

variable {h h' : Host} {t : TaskId}

/-- An operation on the tasks. -/
theorem of_tasks (b : Books h) (g : h.Grows h') (hh : h'.history = h.history)
    (hreg : h'.registry = h.registry)
    (hjob : ∀ r t, h'.job? t = some (.start r .coordinator) →
      h.job? t = some (.start r .coordinator))
    (hreturned : ∀ r t v, h.job? t = some (.start r .coordinator) →
      h'.outcome? t = some (.returned v) → h.outcome? t = some (.returned v))
    (hfailed : ∀ t e, h'.readiness t = some (.error e) → h.readiness t = some (.error e)) :
    Books h' := by
  have hd : h'.deeds = h.deeds := Host.deeds_congr hh
  exact
    { started := fun {r t} => by rw [hd, ← b.started]; exact ⟨hjob r t, g.job?⟩
      ended := fun hc => g.outcome? (b.ended (hd ▸ hc))
      once := fun hc hc' => b.once (hd ▸ hc) (hd ▸ hc')
      came := fun hj ho => hd ▸ b.came (hjob _ _ hj) (hreturned _ _ _ (hjob _ _ hj) ho)
      failed := fun hr => hd ▸ b.failed (hfailed _ _ hr)
      told := fun hj hc => hd ▸ (b.told (hjob _ _ hj) (hd ▸ hc)).imp_left g.readiness
      exit := fun he => by
        obtain ⟨r, t, hj, hc⟩ := b.exit (hd ▸ he)
        exact ⟨r, t, g.job? hj, hd ▸ hc⟩
      up := fun hu => g.readiness (b.up (hd ▸ hu))
      settled := fun hs => g.isEnded (b.settled (hd ▸ hs))
      roll := fun hc => by rw [hreg, Host.accepts_congr hh]; exact b.roll (hreg ▸ hc) }

/-- An operation that has nothing to do with the books. -/
theorem of_same (b : Books h) (ht : h'.tasks = h.tasks) (hh : h'.history = h.history)
    (hreg : h'.registry = h.registry) : Books h' := by
  have hd : h'.deeds = h.deeds := Host.deeds_congr hh
  have hj : ∀ t, h'.job? t = h.job? t := Host.job?_congr ht
  have ho : ∀ t, h'.outcome? t = h.outcome? t := Host.outcome?_congr ht
  have hr : ∀ t, h'.readiness t = h.readiness t := Host.readiness_congr ht
  obtain ⟨h1, h2, h3, h4, h5, h6, h7, h8, h9, h10⟩ := b
  constructor <;> simp only [hd, hj, ho, hr, hreg, Host.accepts_congr hh, Host.isEnded] <;> assumption

/-- An operation that adds one deed, which says nothing of a start. -/
theorem of_deed (b : Books h) {d : Deed} (ht : h'.tasks = h.tasks) (hd : h'.deeds = h.deeds ++ [d])
    (hstart : ∀ s, d ≠ .start s) (hcame : ∀ t q, d ≠ .came t q) (hexit : ∀ e, d ≠ .exit e)
    (hup : ∀ s, d = .up s → h.readiness s.task = some (.ok ()))
    (hsettled : ∀ s, d = .settled s → h.isEnded s.task = true)
    (hroll : h'.registry.closed = false → h'.registry.actions = h'.accepts) : Books h' := by
  have hj : ∀ t, h'.job? t = h.job? t := Host.job?_congr ht
  have ho : ∀ t, h'.outcome? t = h.outcome? t := Host.outcome?_congr ht
  have hr : ∀ t, h'.readiness t = h.readiness t := Host.readiness_congr ht
  have hmem : ∀ {x : Deed}, x ∈ h'.deeds ↔ x ∈ h.deeds ∨ x = d := by simp [hd]
  have hstarts : ∀ {s}, .start s ∈ h'.deeds ↔ .start s ∈ h.deeds := fun {s} =>
    hmem.trans (or_iff_left (hstart s).symm)
  have hcames : ∀ {t q}, .came t q ∈ h'.deeds ↔ .came t q ∈ h.deeds := fun {t q} =>
    hmem.trans (or_iff_left (hcame t q).symm)
  have hexits : ∀ {e}, .exit e ∈ h'.deeds ↔ .exit e ∈ h.deeds := fun {e} =>
    hmem.trans (or_iff_left (hexit e).symm)
  obtain ⟨h1, h2, h3, h4, h5, h6, h7, h8, h9, -⟩ := b
  refine ⟨?_, ?_, ?_, ?_, ?_, ?_, ?_, fun {s} hu => ?_, fun {s} hu => ?_, hroll⟩
  case refine_8 => exact hr s.task ▸ (hmem.1 hu).elim h8 fun e => hup s e.symm
  case refine_9 =>
    rw [Host.isEnded, ho]
    exact (hmem.1 hu).elim h9 fun e => hsettled s e.symm
  all_goals simp only [hj, ho, hr, hstarts, hcames, hexits]; assumption

/-- A deed of the coordinator other than the start of a resource. -/
theorem record (b : Books h) {d : Deed} (hd : d.isForeign = false) (hstart : ∀ s, d ≠ .start s)
    (hup : ∀ s, d = .up s → h.readiness s.task = some (.ok ()))
    (hsettled : ∀ s, d = .settled s → h.isEnded s.task = true) : Books (h.record d) := by
  refine b.of_deed rfl (h.deeds_record d) hstart ?_ ?_ hup hsettled ?_
  · rintro t q rfl
    cases hd
  · rintro e rfl
    cases hd
  · intro hc
    rw [h.accepts_record_own hd]
    exact b.roll hc

theorem spawn (b : Books h) {j : Job} (hj : ∀ r, j ≠ .start r .coordinator) :
    Books (h.spawn j).2 := by
  refine b.of_tasks (h.grows_spawn j) rfl rfl (fun r t ht => ?_) (fun r t v _ ho => ?_)
    ?_
  · rw [Host.job?_spawn] at ht
    split at ht
    · exact absurd (Option.some.inj ht) (hj r)
    · exact ht
  · rwa [Host.outcome?_spawn] at ho
  · intro t e hr
    rwa [Host.readiness_spawn] at hr

theorem reportReady (b : Books h) (t : TaskId) : Books (h.reportReady t) := by
  refine b.of_tasks (h.grows_reportReady t) rfl rfl (fun r u hj => ?_) (fun r u v _ ho => ?_)
    ?_
  · rwa [Host.job?_reportReady] at hj
  · rwa [Host.outcome?_reportReady] at ho
  · intro u e hr
    rw [Host.readiness_reportReady] at hr
    split at hr
    · cases hold : h.readiness u with
      | none => rw [hold] at hr; cases hr
      | some q => rwa [hold] at hr
    · exact hr

/-- A start task that ends without its start coming back does not return. -/
theorem finish (b : Books h) {o : Outcome}
    (ho : ∀ r v, h.job? t = some (.start r .coordinator) → o ≠ .returned v) :
    Books (h.finish t o) := by
  refine b.of_tasks (h.grows_finish t o) rfl rfl (fun r u hj => ?_) (fun r u v hj hu => ?_)
    ?_
  · rwa [Host.job?_finish] at hj
  · rw [Host.outcome?_finish] at hu
    split at hu
    · next htu =>
      obtain ⟨rfl, -⟩ := htu
      cases hold : h.outcome? t with
      | none => rw [hold] at hu; exact absurd (Option.some.inj hu) (ho r v hj)
      | some o' => rwa [hold] at hu
    · exact hu
  · intro u e hr
    rwa [Host.readiness_finish] at hr

theorem deliver (b : Books h) (s : OsSignal) : Books (h.deliver s) := by
  refine b.of_tasks (h.grows_deliver s) rfl rfl (fun r u hj => ?_) (fun r u v _ ho => ?_)
    ?_
  · rwa [Host.job?_deliver] at hj
  · rwa [Host.outcome?_deliver] at ho
  · intro u e hr
    rwa [Host.readiness_deliver] at hr

theorem register (b : Books h) (a : Action) : Books (h.register a).2 := by
  cases hc : h.registry.closed with
  | true =>
    rw [Host.register_of_closed hc]
    exact b.of_same rfl rfl rfl
  | false =>
    rw [Host.register_of_open hc]
    refine b.of_deed rfl (Host.deeds_record _ _) nofun nofun nofun nofun nofun ?_
    intro _
    rw [Host.accepts_record]
    exact congrArg (· ++ [a]) (b.roll hc)

theorem closeRegistry (b : Books h) : Books h.closeRegistry.2 := by
  cases hc : h.registry.closed with
  | true =>
    rw [Host.closeRegistry_of_closed hc]
    exact b.of_same rfl rfl rfl
  | false =>
    rw [Host.closeRegistry_of_open hc]
    obtain ⟨h1, h2, h3, h4, h5, h6, h7, h8, h9, -⟩ := b
    exact ⟨h1, h2, h3, h4, h5, h6, h7, h8, h9, nofun⟩

/-- The start of a resource is put on a new task. -/
theorem launch (b : Books h) (r : ResourceId) : Books (h.launch r .coordinator).2 := by
  have hnew : h.job? h.tasks.length = none := h.job?_eq_none
  have hjob : ∀ u, (h.launch r .coordinator).2.job? u =
      if u = h.tasks.length then some (.start r .coordinator) else h.job? u := h.job?_spawn _
  have hold : ∀ {u j}, h.job? u = some j → (h.launch r .coordinator).2.job? u = some j := by
    intro u j hj
    rw [hjob, if_neg]
    · exact hj
    · rintro rfl
      rw [hnew] at hj
      cases hj
  have hdeeds : (h.launch r .coordinator).2.deeds = h.deeds ++ [.start ⟨r, h.tasks.length⟩] :=
    Host.deeds_record _ _
  have hmem : ∀ {x : Deed}, x ∈ (h.launch r .coordinator).2.deeds ↔
      x ∈ h.deeds ∨ x = .start ⟨r, h.tasks.length⟩ := by simp [hdeeds]
  have hother : ∀ {x : Deed}, x.start? = none →
      (x ∈ (h.launch r .coordinator).2.deeds ↔ x ∈ h.deeds) := by
    intro x hx
    rw [hmem, or_iff_left]
    rintro rfl
    cases hx
  -- Nothing was reported or came back on the task that is new.
  have hfresh : ∀ {u q}, .came u q ∈ h.deeds → u ≠ h.tasks.length := by
    rintro u q hc rfl
    have ho := b.ended hc
    rw [Host.outcome?_eq_none hnew] at ho
    cases ho
  have ho : ∀ u, (h.launch r .coordinator).2.outcome? u = h.outcome? u := h.outcome?_spawn _
  have hr : ∀ u, (h.launch r .coordinator).2.readiness u = h.readiness u := h.readiness_spawn _
  have hjob' : ∀ {r' u o}, (h.launch r .coordinator).2.job? u = some (.start r' .coordinator) →
      h.outcome? u = some o → h.job? u = some (.start r' .coordinator) := by
    intro r' u o hj hu
    rw [hjob] at hj
    split at hj
    · next heq => rw [heq, Host.outcome?_eq_none hnew] at hu; cases hu
    · exact hj
  exact
    { started := fun {r' u} => by
        rw [hjob, hmem, ← b.started]
        split
        · next hu => simp [hu, hnew, eq_comm]
        · next hu => simp [hu]
      ended := fun hc => (ho _).trans (b.ended ((hother rfl).1 hc))
      once := fun hc hc' => b.once ((hother rfl).1 hc) ((hother rfl).1 hc')
      came := fun hj hu => by
        rw [ho] at hu
        exact (b.came (hjob' hj hu) hu).imp fun _ => (hother rfl).2
      failed := fun hu => (hother rfl).2 (b.failed (hr _ ▸ hu))
      told := fun hj hc => by
        have hc := (hother rfl).1 hc
        rw [hr]
        exact (b.told (hjob' hj (b.ended hc)) hc).imp_right (·.imp fun _ => (hother rfl).2)
      exit := fun he => by
        obtain ⟨r', u, hj, hc⟩ := b.exit ((hother rfl).1 he)
        exact ⟨r', u, hold hj, (hother rfl).2 hc⟩
      up := fun hu => (hr _).trans (b.up ((hother rfl).1 hu))
      settled := fun hu => (congrArg Option.isSome (ho _)).trans (b.settled ((hother rfl).1 hu))
      roll := fun hc => by
        rw [show (h.launch r .coordinator).2.accepts = h.accepts from
          (Host.accepts_record _ _).trans (List.append_nil _)]
        exact b.roll hc }

/-- A start comes back: the result is the report if there was none, and an exit otherwise. -/
theorem comeBack (b : Books h) {r : ResourceId} {audience : Audience}
    {result : Except ResourceError Unit} (hj : h.job? t = some (.start r audience))
    (hn : h.isEnded t = false) (m : CameBack t audience result h h') : Books h' := by
  have hnew : ∀ {q}, .came t q ∉ h.deeds := by
    intro q hc
    have ho := b.ended hc
    rw [Host.isEnded_eq_false.1 hn] at ho
    cases ho
  have hold : ∀ {x}, x ∈ h.deeds → x ∈ h'.deeds := m.grows.mem_deeds
  exact
    { started := fun {r' u} => by rw [m.job, m.own rfl]; exact b.started
      ended := fun hc => by
        rcases m.came hc with hc | ⟨rfl, -⟩
        · exact m.grows.outcome? (b.ended hc)
        · exact m.self
      once := fun hc hc' => by
        rcases m.came hc with hc | ⟨rfl, rfl⟩ <;> rcases m.came hc' with hc' | ⟨hu, rfl⟩
        · exact b.once hc hc'
        · exact absurd (hu ▸ hc) hnew
        · exact absurd hc' hnew
        · rfl
      came := fun {r' u v} hj' ho => by
        rw [m.job] at hj'
        by_cases htu : t = u
        · exact ⟨result, htu ▸ m.told⟩
        · exact (b.came hj' (m.other u htu ▸ ho)).imp fun _ => hold
      failed := fun {u e} hu => by
        rcases m.failed u e hu with hu | ⟨rfl, rfl⟩
        · exact hold (b.failed hu)
        · exact m.told
      told := fun {r' u q} hj' hc => by
        rw [m.job] at hj'
        rcases m.came hc with hc | ⟨rfl, rfl⟩
        · exact (b.told hj' hc).imp m.grows.readiness (·.imp fun _ => hold)
        · cases hj.symm.trans hj'
          exact m.heard rfl
      exit := fun {e} he => by
        rcases m.exit he with he | ⟨rfl, rfl⟩
        · obtain ⟨r', u, hu, hc⟩ := b.exit he
          exact ⟨r', u, (m.job u).trans hu, hold hc⟩
        · exact ⟨r, t, (m.job t).trans hj, m.told⟩
      up := fun hu => m.grows.readiness (b.up ((m.own rfl).1 hu))
      settled := fun hu => m.grows.isEnded (b.settled ((m.own rfl).1 hu))
      roll := fun hc => by
        rw [m.registry] at hc ⊢
        rw [m.accepts]
        exact b.roll hc }

theorem move {D : Instant → Prop} (b : Books h) (m : Move D h h') : Books h' := by
  cases m with
  | register a => exact b.register a
  | spawn hj => exact b.spawn fun r e => by rw [e] at hj; exact hj
  | launch a _ _ => exact b.spawn fun r e => by cases e
  | ready t => exact b.reportReady t
  | comeBack result hj hn => exact b.comeBack hj hn (Host.cameBack hj hn)
  | finish hj ho =>
    refine b.finish ?_
    intro r v hr hv
    rw [Option.some.inj (hj.symm.trans hr), hv] at ho
    exact ho
  | deliver s => exact b.deliver s
  | closeRegistry _ => exact b.closeRegistry
  | abort _ _ => exact b.finish fun r v _ e => by cases e
  | _ => exact b.of_same rfl rfl rfl

end Books

end ServiceHost.Lifecycle
