import ServiceHost.Proofs.Lifecycle.Run
import ServiceHost.Proofs.Lifecycle.Table

/-! What may happen on a host besides the steps of its coordinator. A start may report ready, come back or
panic, an action may end in any way, anyone may fire the trigger, register actions, note something, or change
a resource, in any order. The deadlines under which others may also drain the registry are a parameter.

The lemmas say what such a move leaves alone. -/

namespace ServiceHost.Lifecycle

open Relation

/-- The jobs of tasks that serve neither a resource of the coordinator nor an action. -/
def Job.IsErrand : Job → Prop
  | .start _ .coordinator | .action .. => False
  | _ => True

/-- How a task may end by itself, apart from a start that comes back. Only an errand is aborted by
someone other than the one who spawned it. -/
def Job.MayEnd : Job → Outcome → Prop
  | .start _ .coordinator, .panicked _ => True
  | .start _ .coordinator, _ => False
  | .action .., .aborted => False
  | _, _ => True

inductive Move (drains : Instant → Prop) : Host → Host → Prop where
  | note (h n) : Move drains h (h.note n)
  | fire (h reason) : Move drains h (h.fire reason).2
  | register (h a) : Move drains h (h.register a).2
  | spawn (h) {job} : job.IsErrand → Move drains h (h.spawn job).2
  | ready (h t) : Move drains h (h.reportReady t)
  /-- A start comes back with a result, and its task ends. -/
  | comeBack (h) {t r audience} (result) : h.job? t = some (.start r audience) →
      h.isEnded t = false →
      Move drains h ((h.settle t r audience result).finish t (.returned (.ok ())))
  | finish (h) {t job o} : h.job? t = some job → job.MayEnd o → Move drains h (h.finish t o)
  | change (h r) {f : Resource → Resource} : (∀ x, (f x).name = x.name) →
      Move drains h (h.modifyResource r f)
  | deliver (h s) : Move drains h (h.deliver s)
  | aside (h dials exits) : Move drains h { h with dials, directExits := exits }
  | count (h) {m : Metrics} : m.actions = h.metrics.actions → m.drains = h.metrics.drains →
      Move drains h { h with metrics := m }
  | closeRegistry (h) {d} : drains d → Move drains h h.closeRegistry.2
  | launch (h a) {d} : drains d → h.now < d → Move drains h (h.spawn (.action a d)).2
  | abort (h) {t a d} : drains d → h.job? t = some (.action a d) → Move drains h (h.abort t)
  | tally (h m) {d} : drains d → Move drains h { h with metrics := m }

namespace Move

variable {D : Instant → Prop} {h h' : Host} {t : TaskId}

theorem mono {D' : Instant → Prop} (hD : ∀ {d}, D d → D' d) (m : Move D h h') : Move D' h h' := by
  cases m with
  | note n => exact .note h n
  | fire reason => exact .fire h reason
  | register a => exact .register h a
  | spawn hj => exact .spawn h hj
  | ready t => exact .ready h t
  | comeBack result hj hn => exact .comeBack h result hj hn
  | finish hj ho => exact .finish h hj ho
  | change r hf => exact .change h r hf
  | deliver s => exact .deliver h s
  | aside dials exits => exact .aside h dials exits
  | count ha hd => exact .count h ha hd
  | closeRegistry hd => exact .closeRegistry h (hD hd)
  | launch a hd hlt => exact .launch h a (hD hd) hlt
  | abort hd hj => exact .abort h (hD hd) hj
  | tally m hd => exact .tally h m (hD hd)

theorem now (m : Move D h h') : h'.now = h.now := by
  cases m with
  | register a => rw [Host.register_only]
  | comeBack result _ _ => rw [Host.settle_only]; rfl
  | closeRegistry _ => rw [Host.closeRegistry_only]
  | _ => rfl

theorem coordinator (m : Move D h h') : h'.coordinator = h.coordinator := by
  cases m with
  | register a => rw [Host.register_only]
  | comeBack result _ _ => rw [Host.settle_only]; rfl
  | closeRegistry _ => rw [Host.closeRegistry_only]
  | _ => rfl

theorem grows (m : Move D h h') : h.Grows h' := by
  cases m with
  | note n => exact h.grows_note n
  | fire reason => exact h.grows_fire reason
  | register a => exact h.grows_register a
  | spawn _ => exact h.grows_spawn _
  | ready _ => exact h.grows_reportReady _
  | comeBack result _ _ => exact (h.grows_settle ..).trans (Host.grows_finish ..)
  | finish _ _ => exact h.grows_finish ..
  | change r _ => exact h.grows_modifyResource r _
  | deliver s => exact h.grows_deliver s
  | closeRegistry _ => exact h.grows_closeRegistry
  | launch a _ _ => exact h.grows_spawn _
  | abort _ _ => exact h.grows_finish ..
  | _ => exact .of_same rfl rfl rfl rfl List.prefix_rfl

/-- Without drains by others nobody else touches the registry's lock or the counts of the actions. -/
theorem quiet (hD : ∀ d, ¬ D d) (m : Move D h h') :
    h'.registry.closed = h.registry.closed ∧ h'.metrics.actions = h.metrics.actions ∧
      h'.metrics.drains = h.metrics.drains := by
  cases m with
  | register a =>
    refine ⟨?_, by rw [Host.register_only], by rw [Host.register_only]⟩
    cases hc : h.registry.closed <;> simp [Host.register, Registry.register, hc, Host.note, Host.emit,
      Host.record]
  | comeBack result _ _ => rw [Host.settle_only]; exact ⟨rfl, rfl, rfl⟩
  | count ha hd => exact ⟨rfl, ha, hd⟩
  | closeRegistry hd => exact absurd hd (hD _)
  | launch a hd _ => exact absurd hd (hD _)
  | abort hd _ => exact absurd hd (hD _)
  | tally _ hd => exact absurd hd (hD _)
  | _ => exact ⟨rfl, rfl, rfl⟩

theorem resourceName (m : Move D h h') (r : ResourceId) : h'.resourceName r = h.resourceName r := by
  cases m with
  | register a => rw [Host.register_only]; rfl
  | comeBack result _ _ => rw [Host.settle_only]; rfl
  | closeRegistry _ => rw [Host.closeRegistry_only]; rfl
  | change r' hf =>
    simp only [Host.resourceName, Host.resource?, Host.modifyResource, List.getElem?_modify]
    split
    · cases h.resources[r]? <;> simp [hf]
    · simp
  | _ => rfl

/-- A task that is new is an errand, or an action of someone who drains. -/
theorem new_task {b : Task} (m : Move D h h') (hle : h.tasks.length ≤ t) (hb : h'.task? t = some b) :
    b.job.IsErrand ∨ ∃ a d, b.job = .action a d ∧ D d ∧ b.spawned < d := by
  have hold : ∀ {n}, n = h.tasks.length → h'.tasks.length = n → False := fun hn hlen =>
    absurd (List.getElem?_eq_some_iff.1 hb).1 (Nat.not_lt.2 (hlen.trans hn ▸ hle))
  have hnew : ∀ {j}, (h.spawn j).2.task? t = some b → b = ⟨j, h.now, {}, none, none⟩ := by
    intro j hb
    rw [Host.task?_spawn] at hb
    split at hb
    · exact (Option.some.inj hb).symm
    · exact absurd (List.getElem?_eq_some_iff.1 hb).1 (Nat.not_lt.2 hle)
  cases m with
  | spawn hj => rw [hnew hb]; exact .inl hj
  | launch a hd hlt => rw [hnew hb]; exact .inr ⟨a, _, rfl, hd, hlt⟩
  | register a => exact (hold rfl (by rw [Host.register_only])).elim
  | comeBack result _ _ =>
    exact (hold rfl ((Host.length_finish ..).trans (Host.length_settle ..))).elim
  | closeRegistry _ => exact (hold rfl (by rw [Host.closeRegistry_only])).elim
  | ready _ => exact (hold rfl (List.length_modify ..)).elim
  | finish _ _ => exact (hold rfl (Host.length_finish ..)).elim
  | abort _ _ => exact (hold rfl (Host.length_finish ..)).elim
  | deliver s => exact (hold rfl (List.length_map ..)).elim
  | _ => exact (hold rfl rfl).elim

/-- A task that ends anew ends as its job may end, or is an action aborted by someone who drains. -/
theorem ended {j : Job} {o : Outcome} (m : Move D h h') (hj : h.job? t = some j)
    (ho : h'.outcome? t = some o) :
    h.outcome? t = some o ∨ j.MayEnd o ∨ (∃ r a, j = .start r a ∧ o = .returned (.ok ())) ∨
      ∃ a d, D d ∧ j = .action a d ∧ o = .aborted := by
  have hfinish : ∀ {g : Host} {u k o'}, (g.finish u o').outcome? t = some o → g.job? u = some k →
      (∀ v, g.job? v = h.job? v) → (∀ v, g.outcome? v = h.outcome? v) →
      h.outcome? t = some o ∨ k = j ∧ o' = o := by
    intro g u k o' ho hk hjobs houtcomes
    rw [Host.outcome?_finish, hjobs, houtcomes] at ho
    split at ho
    · next hu =>
      obtain ⟨rfl, -⟩ := hu
      obtain rfl : k = j := Option.some.inj (hk.symm.trans ((hjobs u).trans hj))
      cases hold : h.outcome? u with
      | some o'' => exact .inl (by rwa [hold, Option.getD_some] at ho)
      | none => exact .inr ⟨rfl, by rwa [hold, Option.getD_none, Option.some.injEq] at ho⟩
    · exact .inl ho
  cases m with
  | register a => rw [Host.register_only] at ho; exact .inl ho
  | closeRegistry _ => rw [Host.closeRegistry_only] at ho; exact .inl ho
  | spawn _ => rw [Host.outcome?_spawn] at ho; exact .inl ho
  | launch a _ _ => rw [Host.outcome?_spawn] at ho; exact .inl ho
  | ready _ => rw [Host.outcome?_reportReady] at ho; exact .inl ho
  | deliver s => rw [Host.outcome?_deliver] at ho; exact .inl ho
  | comeBack result hk _ =>
    refine (hfinish ho ((Host.job?_settle ..).trans hk) (fun _ => Host.job?_settle ..)
      fun _ => Host.outcome?_settle ..).imp_right fun ⟨hkj, ho⟩ => .inr (.inl ⟨_, _, hkj.symm, ho.symm⟩)
  | finish hk hmay =>
    refine (hfinish ho hk (fun _ => rfl) fun _ => rfl).imp_right fun ⟨hkj, ho⟩ => .inl ?_
    rwa [← hkj, ← ho]
  | abort hd hk =>
    refine (hfinish ho hk (fun _ => rfl) fun _ => rfl).imp_right ?_
    rintro ⟨hkj, ho⟩
    exact .inr (.inr ⟨_, _, hd, hkj.symm, ho.symm⟩)
  | _ => exact .inl ho

/-- A start of the coordinator is aborted by nobody else. -/
theorem start_not_aborted {r : ResourceId} (m : Move D h h')
    (hj : h.job? t = some (.start r .coordinator)) (ho : h'.outcome? t = some .aborted) :
    h.outcome? t = some .aborted := by
  rcases m.ended hj ho with hold | hmay | ⟨_, _, -, ho⟩ | ⟨_, _, -, hj, -⟩
  · exact hold
  · exact hmay.elim
  · cases ho
  · cases hj

/-- An action is aborted by nobody else, unless others drain. -/
theorem action_not_aborted {a : Action} {d : Instant} (hD : ∀ d, ¬ D d) (m : Move D h h')
    (hj : h.job? t = some (.action a d)) (ho : h'.outcome? t = some .aborted) :
    h.outcome? t = some .aborted := by
  rcases m.ended hj ho with hold | hmay | ⟨_, _, -, ho⟩ | ⟨_, _, hd, -⟩
  · exact hold
  · exact hmay.elim
  · cases ho
  · exact absurd hd (hD _)

end Move

end ServiceHost.Lifecycle
