import ServiceHost.Proofs.Lifecycle.Books

/-! Those around a coordinator: they move as `Move` lists, and unless panics are allowed they bring in no code
that panics while the coordinator runs it. `Passes` is the time in which only they are active, `Frame` what
such a time, and the coordinator's own closing of resources, leave as it is. -/

namespace ServiceHost.Lifecycle

open Relation

/-- Closing the resource does not panic. -/
def Resource.ClosesQuietly (x : Resource) : Prop :=
  ∀ s, x.kind = .scripted s → ∀ p, .panic p ∉ s.close

/-- No call of an action and no close panics. -/
structure Host.Tame (h : Host) : Prop where
  actions : ∀ a ∈ h.registry.actions, a.callPanics = none
  closes : ∀ x ∈ h.resources, x.ClosesQuietly

theorem Host.tame_of_scripted {h : Host} (l : List (String × Scripted))
    (hcalls : ∀ a ∈ h.registry.actions, a.callPanics = none)
    (hres : h.resources = l.map fun x => .scripted x.1 x.2) (hs : ∀ x ∈ l, ∀ p, .panic p ∉ x.2.close) :
    h.Tame where
  actions := hcalls
  closes x hx := by
    rw [hres] at hx
    obtain ⟨y, hy, rfl⟩ := List.mem_map.1 hx
    rintro _ ⟨⟩
    exact hs y hy

theorem Host.tame_of_one {h : Host} {name : String} {s : Scripted} (hreg : h.registry.actions = [])
    (hres : h.resources = [.scripted name s]) (hs : ∀ p, .panic p ∉ s.close) : h.Tame :=
  Host.tame_of_scripted [(name, s)] (by rw [hreg]; exact nofun) hres (by simpa using hs)

/-- Tame, unless panics are allowed. -/
def Host.Steady (panics : Prop) (h : Host) : Prop := panics ∨ h.Tame

/-- A move of the others, who drain under the deadlines `drains` and keep the host tame, unless panics are
allowed. -/
def Peers (drains : Instant → Prop) (panics : Prop) (h h' : Host) : Prop :=
  Move drains h h' ∧ (h.Steady panics → h'.Steady panics)

/-- Others move and time passes. -/
abbrev Passes (drains : Instant → Prop) (panics : Prop) : Host → Host → Prop :=
  Waits (Peers drains panics) []

variable {D : Instant → Prop} {P : Prop} {h h' h'' : Host}

theorem Host.Steady.of_same (hs : h.Steady P) (hreg : h'.registry.actions = h.registry.actions)
    (hres : h'.resources = h.resources) : h'.Steady P :=
  hs.imp_right fun ht => ⟨hreg ▸ ht.actions, hres ▸ ht.closes⟩

theorem Host.Steady.modifyResource (hs : h.Steady P) (r : ResourceId) {f : Resource → Resource}
    (hf : ∀ x, x.ClosesQuietly → (f x).ClosesQuietly) : (h.modifyResource r f).Steady P := by
  refine hs.imp_right fun ht => ⟨ht.actions, ?_⟩
  intro x hx
  obtain ⟨i, hi⟩ := List.mem_iff_getElem?.1 hx
  rw [Host.modifyResource, List.getElem?_modify] at hi
  obtain ⟨y, hy, rfl⟩ := Option.map_eq_some_iff.1 hi
  have hquiet : y.ClosesQuietly := ht.closes y (List.mem_of_getElem? hy)
  split
  · exact hf y hquiet
  · exact hquiet

theorem Host.Steady.register (hs : h.Steady P) {a : Action} (ha : a.callPanics = none) :
    (h.register a).2.Steady P := by
  cases hc : h.registry.closed with
  | true => rw [Host.register_of_closed hc]; exact hs.of_same rfl rfl
  | false =>
    rw [Host.register_of_open hc]
    refine hs.imp_right fun ht => ⟨fun b hb => ?_, ht.closes⟩
    rcases List.mem_append.1 hb with hb | hb
    · exact ht.actions b hb
    · rw [List.mem_singleton.1 hb]; exact ha

/-! ## Frames -/

/-- What stays as it is while the coordinator does `l`, aborts at most the starts on `aborts`, and otherwise
lets the others move. -/
structure Frame (drains : Instant → Prop) (l : List (Instant × Deed)) (aborts : List TaskId)
    (h h' : Host) : Prop where
  grows : h.Grows h'
  coordinator : h'.coordinator = h.coordinator
  conduct : h'.conduct = h.conduct ++ l
  exits : ∃ es, h'.exits = h.exits ++ es ∧ h'.arrivals = h.arrivals ++ es
  accepts : h.registry.closed = true → h'.accepts = h.accepts
  books : Books h → Books h'
  new_task : ∀ {t b}, h.tasks.length ≤ t → h'.task? t = some b →
    b.job.IsErrand ∨ ∃ a d, b.job = .action a d ∧ drains d ∧ b.spawned < d
  start : ∀ {t r}, h.job? t = some (.start r .coordinator) → h'.outcome? t = some .aborted →
    h.outcome? t = some .aborted ∨ t ∈ aborts
  action : ∀ {t a d}, (∀ d, ¬ drains d) → h.job? t = some (.action a d) →
    h'.outcome? t = some .aborted → h.outcome? t = some .aborted
  quiet : (∀ d, ¬ drains d) → h'.registry.closed = h.registry.closed ∧
    h'.metrics.actions = h.metrics.actions ∧ h'.metrics.drains = h.metrics.drains
  resourceName : ∀ r, h'.resourceName r = h.resourceName r

namespace Frame

variable {l l' : List (Instant × Deed)} {A A' : List TaskId}

theorem refl (h : Host) : Frame D [] [] h h where
  grows := .refl h
  coordinator := rfl
  conduct := (List.append_nil _).symm
  exits := ⟨[], (List.append_nil _).symm, (List.append_nil _).symm⟩
  accepts _ := rfl
  books b := b
  new_task hle hb := absurd (List.getElem?_eq_some_iff.1 hb).1 (Nat.not_lt.2 hle)
  start _ ho := .inl ho
  action _ _ ho := ho
  quiet _ := ⟨rfl, rfl, rfl⟩
  resourceName _ := rfl

/-- The starts of the coordinator are those from before. -/
theorem job?_start {t : TaskId} {r : ResourceId} (f : Frame D l A h h')
    (hj : h'.job? t = some (.start r .coordinator)) : h.job? t = some (.start r .coordinator) := by
  rcases Nat.lt_or_ge t h.tasks.length with hlt | hle
  · exact f.grows.job?_of_lt hlt hj
  · obtain ⟨b, hb, hbj⟩ := Option.map_eq_some_iff.1 hj
    rcases f.new_task hle hb with he | ⟨a, d, ha, -⟩
    · rw [hbj] at he
      exact he.elim
    · rw [hbj] at ha
      cases ha

theorem trans (f : Frame D l A h h') (f' : Frame D l' A' h' h'') :
    Frame D (l ++ l') (A ++ A') h h'' where
  grows := f.grows.trans f'.grows
  coordinator := f'.coordinator.trans f.coordinator
  conduct := by rw [f'.conduct, f.conduct, List.append_assoc]
  exits := by
    obtain ⟨es, he, ha⟩ := f.exits
    obtain ⟨es', he', ha'⟩ := f'.exits
    exact ⟨es ++ es', by rw [he', he, List.append_assoc], by rw [ha', ha, List.append_assoc]⟩
  accepts hc := (f'.accepts (by rw [f.grows.registry hc]; exact hc)).trans (f.accepts hc)
  books b := f'.books (f.books b)
  new_task {t b} hle hb := by
    rcases Nat.lt_or_ge t h'.tasks.length with hlt | hle'
    · obtain ⟨c, hc, hac⟩ := f'.grows.tasks t _ (List.getElem?_eq_getElem hlt)
      obtain rfl : c = b := Option.some.inj (hc.symm.trans hb)
      rw [hac.job, hac.spawned]
      exact f.new_task hle (List.getElem?_eq_getElem hlt)
    · exact f'.new_task hle' hb
  start hj ho := by
    rcases f'.start (f.grows.job? hj) ho with ho | ht
    · exact (f.start hj ho).imp_right (List.mem_append_left _)
    · exact .inr (List.mem_append_right _ ht)
  action hD hj ho := f.action hD hj (f'.action hD (f.grows.job? hj) ho)
  quiet hD := by
    obtain ⟨hc, hm, hd⟩ := f.quiet hD
    obtain ⟨hc', hm', hd'⟩ := f'.quiet hD
    exact ⟨hc'.trans hc, hm'.trans hm, hd'.trans hd⟩
  resourceName r := (f'.resourceName r).trans (f.resourceName r)

theorem mono {D' : Instant → Prop} (hD : ∀ {d}, D d → D' d) (f : Frame D l A h h') :
    Frame D' l A h h' :=
  { f with
    new_task := fun hle hb => (f.new_task hle hb).imp_right
      fun ⟨a, d, hj, hd, hlt⟩ => ⟨a, d, hj, hD hd, hlt⟩
    action := fun hn => f.action fun d hd => hn d (hD hd)
    quiet := fun hn => f.quiet fun d hd => hn d (hD hd) }

theorem aborts_mono (hA : A ⊆ A') (f : Frame D l A h h') : Frame D l A' h h' :=
  { f with start := fun hj ho => (f.start hj ho).imp_right (hA ·) }

theorem of_move (m : Move D h h') : Frame D [] [] h h' where
  grows := m.grows
  coordinator := m.coordinator
  conduct := m.conduct.trans (List.append_nil _).symm
  exits := m.exits
  accepts := m.accepts
  books b := b.move m
  new_task := m.new_task
  start hj ho := .inl (m.start_not_aborted hj ho)
  action hD hj ho := m.action_not_aborted hD hj ho
  quiet := m.quiet
  resourceName := m.resourceName

theorem of_clock {t : Instant} (ht : h.now ≤ t) : Frame D [] [] h { h with now := t } :=
  { refl h with
    grows := ⟨ht, fun _ a ha => ⟨a, ha, .refl a⟩, fun _ hr => hr, fun _ => rfl, List.prefix_rfl⟩
    books := fun b => b.of_same rfl rfl rfl }

theorem emit (h : Host) (e : Event) : Frame D [] [] h (h.emit e) := of_move (.note h (.event e))

theorem record (h : Host) {d : Deed} (hd : d.isForeign = false) (hstart : ∀ s, d ≠ .start s)
    (hup : ∀ s, d = .up s → h.readiness s.task = some (.ok ()))
    (hsettled : ∀ s, d = .settled s → h.isEnded s.task = true) :
    Frame D [(h.now, d)] [] h (h.record d) :=
  { refl h with
    grows := h.grows_record d
    conduct := h.conduct_record hd
    exits := ⟨[], (List.append_nil _).symm, by rw [h.arrivals_record_own hd, List.append_nil]⟩
    accepts := fun _ => h.accepts_record_own hd
    books := fun b => b.record hd hstart hup hsettled }

/-- The coordinator aborts a start. -/
theorem abort {t : TaskId} {r : ResourceId} (hj : h.job? t = some (.start r .coordinator)) :
    Frame D [] [t] h (h.abort t) :=
  { refl h with
    grows := h.grows_finish t .aborted
    books := fun b => b.finish fun _ _ _ => nofun
    new_task := fun hle hb => absurd (List.getElem?_eq_some_iff.1 hb).1
      (Nat.not_lt.2 ((Host.length_finish ..).symm ▸ hle))
    start := fun {u _} _ ho => by
      by_cases htu : t = u
      · exact .inr (List.mem_singleton.2 htu.symm)
      · exact .inl ((Host.outcome?_finish_of_ne htu).symm.trans ho)
    action := fun {u _ _} _ hu ho => by
      have htu : t ≠ u := by
        rintro rfl
        cases hj.symm.trans hu
      exact (Host.outcome?_finish_of_ne htu).symm.trans ho }

end Frame

/-! ## The time of the others -/

theorem Peers.frame (m : Peers D P h h') : Frame D [] [] h h' := .of_move m.1

theorem Tick.frame {s : List Signal} (m : Tick s h h') : Frame D [] [] h h' := by
  obtain ⟨t, ht, -, rfl⟩ := m
  exact .of_clock ht

theorem Waits.frame {s : List Signal} (w : Waits (Peers D P) s h h') : Frame D [] [] h h' :=
  w.preserve (fun he f => f.trans he.frame) (fun he f => f.trans he.frame) (.refl h)

theorem Waits.steady {s : List Signal} (w : Waits (Peers D P) s h h') (hs : h.Steady P) :
    h'.Steady P := by
  refine w.preserve (K := (·.Steady P)) (fun he hs => he.2 hs) (fun m hs => ?_) hs
  obtain ⟨t, -, -, rfl⟩ := m
  exact hs.of_same rfl rfl

theorem Others.waits {E : Host → Host → Prop} {s : List Signal} (o : Others E h h') :
    Waits E s h h' :=
  ReflTransGen.mono (fun _ _ => Or.inl) _ _ o

theorem Others.frame (o : Others (Peers D P) h h') : Frame D [] [] h h' :=
  (Others.waits (s := []) o).frame

theorem Others.steady (o : Others (Peers D P) h h') (hs : h.Steady P) : h'.Steady P :=
  (Others.waits (s := []) o).steady hs

/-- Where panics are allowed, the others may make any move. -/
theorem Waits.peers {s : List Signal} (w : Waits (Move D) s h h') : Waits (Peers D True) s h h' :=
  Waits.mono (fun m => ⟨m, fun _ => .inl trivial⟩) w

theorem Others.peers (o : Others (Move D) h h') : Others (Peers D True) h h' :=
  Others.mono (fun m => ⟨m, fun _ => .inl trivial⟩) o

/-- While others move without a wait, no time passes. -/
theorem Others.now (o : Others (Peers D P) h h') : h'.now = h.now :=
  o.preserve (K := fun g => g.now = h.now) (fun he hg => he.1.now.trans hg) rfl

theorem Peers.of_move (m : Move D h h') (hreg : h'.registry.actions = h.registry.actions)
    (hres : h'.resources = h.resources) : Others (Peers D P) h h' :=
  .single ⟨m, fun hs => hs.of_same hreg hres⟩

theorem others_note (h : Host) (n : Note) : Others (Peers D P) h (h.note n) :=
  Peers.of_move (.note h n) rfl rfl

/-! ## Keeping a deadline -/

/-- The terms of a coordinator that keeps a deadline: every wait of it is bounded. -/
abbrev timelyTerms (drains : Instant → Prop) (panics : Prop) (always : Host → Prop) : Terms :=
  { rely := Peers drains panics, always, timely := True, loops := False, panics := fun _ => panics }

/-- Time has not gone past the deadline, or has stood still. -/
def Host.InTime (h : Host) (d : Instant) (h' : Host) : Prop := h'.now ≤ d ∨ h'.now = h.now

theorem Host.InTime.trans (i : h.InTime d h') (i' : h'.InTime d h'') : h.InTime d h'' :=
  i'.elim .inl fun e => i.imp (e ▸ ·) (e ▸ ·)

end ServiceHost.Lifecycle
