import Mathlib.Data.List.Basic
import ServiceHost.Lifecycle.Host

/-! The table of tasks under the operations of the host, and how a host grows: no operation forgets a task,
takes back an end or a report, reopens the registry or shortens the history. -/

namespace ServiceHost.Lifecycle

namespace Host

def job? (h : Host) (t : TaskId) : Option Job := (h.task? t).map (·.job)

def deeds (h : Host) : List Deed := h.history.map (·.2)

/-! ## Looking a task up -/

theorem task?_modifyTask (h : Host) (t u : TaskId) (f : Task → Task) :
    (h.modifyTask t f).task? u = if t = u then (h.task? u).map f else h.task? u := by
  simp only [task?, modifyTask, List.getElem?_modify]
  split <;> simp

theorem spawn_fst (h : Host) (j : Job) : (h.spawn j).1 = h.tasks.length := rfl

theorem task?_spawn (h : Host) (j : Job) (u : TaskId) :
    (h.spawn j).2.task? u =
      if u = h.tasks.length then some ⟨j, h.now, {}, none, none⟩ else h.task? u := by
  simp only [task?, spawn, List.getElem?_append, List.getElem?_singleton]
  rcases Nat.lt_trichotomy u h.tasks.length with hlt | rfl | hgt
  · rw [if_pos hlt, if_neg (Nat.ne_of_lt hlt)]
  · simp
  · have hne : u - h.tasks.length ≠ 0 := Nat.sub_ne_zero_of_lt hgt
    rw [if_neg (Nat.lt_asymm hgt), if_neg hne, if_neg (Nat.ne_of_gt hgt),
      List.getElem?_eq_none (Nat.le_of_lt hgt)]

theorem task?_eq_none (h : Host) : h.task? h.tasks.length = none :=
  List.getElem?_eq_none (Nat.le_refl _)

theorem lt_of_job? {h : Host} {t : TaskId} {j : Job} (hj : h.job? t = some j) :
    t < h.tasks.length := by
  obtain ⟨task, ht, -⟩ := Option.map_eq_some_iff.1 hj
  exact (List.getElem?_eq_some_iff.1 ht).1

theorem isEnded_eq_false {h : Host} {t : TaskId} : h.isEnded t = false ↔ h.outcome? t = none := by
  simp [isEnded]

theorem outcome?_eq_none {h : Host} {t : TaskId} (hj : h.job? t = none) : h.outcome? t = none := by
  simp [outcome?, Option.map_eq_none_iff.1 hj]

theorem readiness_eq_none {h : Host} {t : TaskId} (hj : h.job? t = none) :
    h.readiness t = none := by
  simp [readiness, Option.map_eq_none_iff.1 hj]

theorem length_finish (h : Host) (t : TaskId) (o : Outcome) :
    (h.finish t o).tasks.length = h.tasks.length :=
  List.length_modify ..

theorem job?_eq_none (h : Host) : h.job? h.tasks.length = none := by
  simp [job?, task?_eq_none]

section
variable {h h' : Host} (ht : h'.tasks = h.tasks) (t : TaskId)
include ht

theorem job?_congr : h'.job? t = h.job? t := by simp only [job?, task?, ht]

theorem outcome?_congr : h'.outcome? t = h.outcome? t := by simp only [outcome?, task?, ht]

theorem readiness_congr : h'.readiness t = h.readiness t := by simp only [readiness, task?, ht]

end

theorem job?_modifyTask (h : Host) (t u : TaskId) {f : Task → Task} (hf : ∀ a, (f a).job = a.job) :
    (h.modifyTask t f).job? u = h.job? u := by
  rw [job?, task?_modifyTask]
  split
  · rw [Option.map_map, job?]
    exact congrArg (Option.map · _) (funext hf)
  · rfl

theorem outcome?_modifyTask (h : Host) (t u : TaskId) {f : Task → Task}
    (hf : ∀ a, (f a).ended = a.ended) : (h.modifyTask t f).outcome? u = h.outcome? u := by
  rw [outcome?, task?_modifyTask]
  split
  · cases ha : h.task? u <;> simp [outcome?, Task.outcome?, ha, hf]
  · rfl

theorem readiness_modifyTask (h : Host) (t u : TaskId) {f : Task → Task}
    (hf : ∀ a, (f a).readiness = a.readiness) : (h.modifyTask t f).readiness u = h.readiness u := by
  rw [readiness, task?_modifyTask]
  split
  · cases ha : h.task? u <;> simp [readiness, ha, hf]
  · rfl

@[simp] theorem job?_spawn (h : Host) (j : Job) (u : TaskId) :
    (h.spawn j).2.job? u = if u = h.tasks.length then some j else h.job? u := by
  rw [job?, task?_spawn]
  split <;> rfl

@[simp] theorem outcome?_spawn (h : Host) (j : Job) (u : TaskId) :
    (h.spawn j).2.outcome? u = h.outcome? u := by
  rw [outcome?, task?_spawn]
  split
  · next hu => rw [hu, outcome?_eq_none h.job?_eq_none]; rfl
  · rfl

@[simp] theorem readiness_spawn (h : Host) (j : Job) (u : TaskId) :
    (h.spawn j).2.readiness u = h.readiness u := by
  rw [readiness, task?_spawn]
  split
  · next hu => rw [hu, readiness_eq_none h.job?_eq_none]; rfl
  · rfl

@[simp] theorem job?_finish (h : Host) (t : TaskId) (o : Outcome) (u : TaskId) :
    (h.finish t o).job? u = h.job? u :=
  h.job?_modifyTask t u fun a => by split <;> rfl

@[simp] theorem readiness_finish (h : Host) (t : TaskId) (o : Outcome) (u : TaskId) :
    (h.finish t o).readiness u = h.readiness u :=
  h.readiness_modifyTask t u fun a => by split <;> rfl

theorem outcome?_finish (h : Host) (t : TaskId) (o : Outcome) (u : TaskId) :
    (h.finish t o).outcome? u =
      if t = u ∧ (h.job? u).isSome then some ((h.outcome? u).getD o) else h.outcome? u := by
  simp only [outcome?, finish, task?_modifyTask, job?]
  rcases (h.task? u).eq_none_or_eq_some with ha | ⟨a, ha⟩
  · simp [ha]
  · by_cases htu : t = u
    · cases he : a.ended <;> simp [htu, ha, Task.outcome?, he]
    · simp [htu, ha]

theorem outcome?_finish_self {h : Host} {t : TaskId} {j : Job} {o : Outcome}
    (hj : h.job? t = some j) (hn : h.isEnded t = false) : (h.finish t o).outcome? t = some o := by
  rw [outcome?_finish, if_pos ⟨rfl, by simp [hj]⟩, isEnded_eq_false.1 hn]
  rfl

theorem outcome?_finish_of_ne {h : Host} {t u : TaskId} {o : Outcome} (hne : t ≠ u) :
    (h.finish t o).outcome? u = h.outcome? u := by
  rw [outcome?_finish, if_neg fun h => hne h.1]

theorem isEnded_finish_self {h : Host} {t : TaskId} {j : Job} {o : Outcome}
    (hj : h.job? t = some j) : (h.finish t o).isEnded t = true := by
  rw [isEnded, outcome?_finish, if_pos ⟨rfl, by simp [hj]⟩]
  rfl

@[simp] theorem job?_reportReady (h : Host) (t u : TaskId) :
    (h.reportReady t).job? u = h.job? u :=
  h.job?_modifyTask t u fun _ => rfl

@[simp] theorem outcome?_reportReady (h : Host) (t u : TaskId) :
    (h.reportReady t).outcome? u = h.outcome? u :=
  h.outcome?_modifyTask t u fun _ => rfl

theorem readiness_reportReady (h : Host) (t u : TaskId) :
    (h.reportReady t).readiness u =
      if t = u ∧ (h.job? u).isSome then some ((h.readiness u).getD (.ok ()))
      else h.readiness u := by
  simp only [readiness, reportReady, task?_modifyTask, job?]
  rcases (h.task? u).eq_none_or_eq_some with ha | ⟨a, ha⟩
  · simp [ha]
  · by_cases htu : t = u
    · cases hr : a.readiness.report <;> simp [htu, ha, Readiness.ready, hr]
    · simp [htu, ha]

theorem task?_deliver (h : Host) (s : OsSignal) (u : TaskId) :
    ∃ f : Task → Task, (h.deliver s).task? u = (h.task? u).map f ∧
      ∀ a, (f a).job = a.job ∧ (f a).ended = a.ended ∧ (f a).readiness = a.readiness ∧
        (f a).spawned = a.spawned := by
  refine ⟨_, List.getElem?_map, fun a => ?_⟩
  split <;> exact ⟨rfl, rfl, rfl, rfl⟩

@[simp] theorem job?_deliver (h : Host) (s : OsSignal) (u : TaskId) :
    (h.deliver s).job? u = h.job? u := by
  obtain ⟨f, hf, hkeeps⟩ := h.task?_deliver s u
  cases ha : h.task? u <;> simp [job?, hf, ha, (hkeeps _).1]

@[simp] theorem outcome?_deliver (h : Host) (s : OsSignal) (u : TaskId) :
    (h.deliver s).outcome? u = h.outcome? u := by
  obtain ⟨f, hf, hkeeps⟩ := h.task?_deliver s u
  cases ha : h.task? u <;> simp [outcome?, Task.outcome?, hf, ha, (hkeeps _).2.1]

@[simp] theorem readiness_deliver (h : Host) (s : OsSignal) (u : TaskId) :
    (h.deliver s).readiness u = h.readiness u := by
  obtain ⟨f, hf, hkeeps⟩ := h.task?_deliver s u
  cases ha : h.task? u <;> simp [readiness, hf, ha, (hkeeps _).2.2.1]

/-! ## What an operation changes at most -/

theorem register_only (h : Host) (a : Action) :
    (h.register a).2 = { h with
      registry := (h.register a).2.registry
      trace := (h.register a).2.trace
      history := (h.register a).2.history } := by
  simp only [register]
  split <;> rfl

theorem closeRegistry_only (h : Host) :
    h.closeRegistry.2 = { h with
      registry := h.closeRegistry.2.registry
      trace := h.closeRegistry.2.trace } := by
  simp only [closeRegistry]
  split <;> rfl

theorem settle_only (h : Host) (t : TaskId) (r : ResourceId) (audience : Audience)
    (result : Except ResourceError Unit) :
    h.settle t r audience result = { h with
      tasks := (h.settle t r audience result).tasks
      exits := (h.settle t r audience result).exits
      directExits := (h.settle t r audience result).directExits
      history := (h.settle t r audience result).history } := by
  simp only [settle, addExit]
  split
  · rfl
  · split
    · rfl
    · split <;> rfl

end Host

/-! ## Growing -/

/-- What a task keeps for good. -/
structure Task.Grows (a b : Task) : Prop where
  job : b.job = a.job
  spawned : b.spawned = a.spawned
  ended : ∀ e, a.ended = some e → b.ended = some e
  report : ∀ r, a.readiness.report = some r → b.readiness.report = some r

theorem Task.Grows.refl (a : Task) : a.Grows a := ⟨rfl, rfl, fun _ h => h, fun _ h => h⟩

theorem Task.Grows.trans {a b c : Task} (hab : a.Grows b) (hbc : b.Grows c) : a.Grows c :=
  ⟨hbc.job.trans hab.job, hbc.spawned.trans hab.spawned,
    fun e h => hbc.ended e (hab.ended e h), fun r h => hbc.report r (hab.report r h)⟩

/-- What a host keeps for good. -/
structure Host.Grows (h h' : Host) : Prop where
  now : h.now ≤ h'.now
  tasks : ∀ t a, h.task? t = some a → ∃ b, h'.task? t = some b ∧ a.Grows b
  trigger : ∀ r, h.trigger.reason = some r → h'.trigger.reason = some r
  registry : h.registry.closed = true → h'.registry = h.registry
  history : h.history <+: h'.history

namespace Host.Grows

variable {h h' h'' : Host} {t : TaskId}

theorem refl (h : Host) : h.Grows h :=
  ⟨Nat.le_refl _, fun _ a ha => ⟨a, ha, .refl a⟩, fun _ hr => hr, fun _ => rfl, List.prefix_rfl⟩

theorem trans (g : h.Grows h') (g' : h'.Grows h'') : h.Grows h'' where
  now := Nat.le_trans g.now g'.now
  tasks t a ha := by
    obtain ⟨b, hb, hab⟩ := g.tasks t a ha
    obtain ⟨c, hc, hbc⟩ := g'.tasks t b hb
    exact ⟨c, hc, hab.trans hbc⟩
  trigger r hr := g'.trigger r (g.trigger r hr)
  registry hc := (g'.registry (by rw [g.registry hc]; exact hc)).trans (g.registry hc)
  history := g.history.trans g'.history

theorem job? (g : h.Grows h') {j : Job} (hj : h.job? t = some j) : h'.job? t = some j := by
  obtain ⟨a, ha, rfl⟩ := Option.map_eq_some_iff.1 hj
  obtain ⟨b, hb, hab⟩ := g.tasks t a ha
  exact Option.map_eq_some_iff.2 ⟨b, hb, hab.job⟩

theorem job?_of_lt (g : h.Grows h') {j : Job} (hlt : t < h.tasks.length)
    (hj : h'.job? t = some j) : h.job? t = some j := by
  have hold : h.job? t = some (h.tasks[t]).job := by
    rw [Host.job?, Host.task?, List.getElem?_eq_getElem hlt]
    rfl
  rw [hold]
  exact (g.job? hold).symm.trans hj

theorem outcome? (g : h.Grows h') {o : Outcome} (ho : h.outcome? t = some o) :
    h'.outcome? t = some o := by
  obtain ⟨a, ha, hao⟩ := Option.bind_eq_some_iff.1 ho
  obtain ⟨e, he, rfl⟩ := Option.map_eq_some_iff.1 hao
  obtain ⟨b, hb, hab⟩ := g.tasks t a ha
  exact Option.bind_eq_some_iff.2 ⟨b, hb, Option.map_eq_some_iff.2 ⟨e, hab.ended e he, rfl⟩⟩

theorem isEnded (g : h.Grows h') (he : h.isEnded t = true) : h'.isEnded t = true := by
  obtain ⟨o, ho⟩ := Option.isSome_iff_exists.1 he
  exact Option.isSome_iff_exists.2 ⟨o, g.outcome? ho⟩

theorem readiness (g : h.Grows h') {r : Except ResourceError Unit} (hr : h.readiness t = some r) :
    h'.readiness t = some r := by
  obtain ⟨a, ha, har⟩ := Option.bind_eq_some_iff.1 hr
  obtain ⟨b, hb, hab⟩ := g.tasks t a ha
  exact Option.bind_eq_some_iff.2 ⟨b, hb, hab.report r har⟩

theorem mem_deeds (g : h.Grows h') {d : Deed} (hd : d ∈ h.deeds) : d ∈ h'.deeds :=
  (g.history.map _).subset hd

end Host.Grows

namespace Host

/-- An operation that changes nothing of what is kept for good, but may add to the history. -/
theorem Grows.of_same {h h' : Host} (hnow : h'.now = h.now) (htasks : h'.tasks = h.tasks)
    (htrigger : h'.trigger = h.trigger) (hregistry : h'.registry = h.registry)
    (hhistory : h.history <+: h'.history) : h.Grows h' where
  now := Nat.le_of_eq hnow.symm
  tasks t a ha := ⟨a, by simpa only [task?, htasks] using ha, .refl a⟩
  trigger r hr := by rwa [htrigger]
  registry _ := hregistry
  history := hhistory

theorem grows_note (h : Host) (n : Note) : h.Grows (h.note n) :=
  .of_same rfl rfl rfl rfl List.prefix_rfl

theorem grows_record (h : Host) (d : Deed) : h.Grows (h.record d) :=
  .of_same rfl rfl rfl rfl (List.prefix_append ..)

theorem grows_modifyCoordinator (h : Host) (f : Coordinator → Coordinator) :
    h.Grows (h.modifyCoordinator f) :=
  .of_same rfl rfl rfl rfl List.prefix_rfl

theorem grows_modifyResource (h : Host) (r : ResourceId) (f : Resource → Resource) :
    h.Grows (h.modifyResource r f) :=
  .of_same rfl rfl rfl rfl List.prefix_rfl

theorem grows_fire (h : Host) (reason : StopReason) : h.Grows (h.fire reason).2 where
  now := Nat.le_refl _
  tasks t a ha := ⟨a, ha, .refl a⟩
  trigger r hr := by
    simp only [fire, Trigger.fire, emit, note]
    split
    · simp_all
    · exact hr
  registry _ := rfl
  history := List.prefix_rfl

theorem grows_register (h : Host) (a : Action) : h.Grows (h.register a).2 := by
  cases hc : h.registry.closed with
  | true =>
    simp only [register, Registry.register, hc, if_true]
    exact h.grows_note _
  | false =>
    simp only [register, Registry.register, hc, Bool.false_eq_true, if_false]
    exact
      { now := Nat.le_refl _
        tasks := fun t a ha => ⟨a, ha, .refl a⟩
        trigger := fun _ hr => hr
        registry := fun h' => absurd h' (by simp [hc])
        history := List.prefix_append .. }

theorem grows_closeRegistry (h : Host) : h.Grows h.closeRegistry.2 := by
  cases hc : h.registry.closed with
  | true =>
    simp only [closeRegistry, Registry.close, hc, if_true]
    exact h.grows_note _
  | false =>
    simp only [closeRegistry, Registry.close, hc, Bool.false_eq_true, if_false]
    exact
      { now := Nat.le_refl _
        tasks := fun t a ha => ⟨a, ha, .refl a⟩
        trigger := fun _ hr => hr
        registry := fun h' => absurd h' (by simp [hc])
        history := List.prefix_rfl }

/-- An operation on the tasks alone. -/
theorem Grows.of_tasks {h h' : Host}
    (htasks : ∀ t a, h.task? t = some a → ∃ b, h'.task? t = some b ∧ a.Grows b)
    (hnow : h'.now = h.now) (htrigger : h'.trigger = h.trigger)
    (hregistry : h'.registry = h.registry) (hhistory : h'.history = h.history) : h.Grows h' where
  now := Nat.le_of_eq hnow.symm
  tasks := htasks
  trigger r hr := by rwa [htrigger]
  registry _ := hregistry
  history := ⟨[], by rw [hhistory, List.append_nil]⟩

theorem grows_modifyTask (h : Host) (t : TaskId) {f : Task → Task}
    (hf : ∀ a, h.task? t = some a → a.Grows (f a)) : h.Grows (h.modifyTask t f) := by
  refine .of_tasks (fun u a ha => ?_) rfl rfl rfl rfl
  rw [task?_modifyTask]
  split
  · next htu => exact ⟨f a, by rw [ha]; rfl, hf a (by rw [htu]; exact ha)⟩
  · exact ⟨a, ha, .refl a⟩

theorem grows_finish (h : Host) (t : TaskId) (o : Outcome) : h.Grows (h.finish t o) := by
  refine h.grows_modifyTask t ?_
  intro a _
  split
  · exact .refl a
  · next hn => exact ⟨rfl, rfl, fun e he => absurd (by simp [he]) hn, fun _ hr => hr⟩

theorem grows_reportReady (h : Host) (t : TaskId) : h.Grows (h.reportReady t) := by
  refine h.grows_modifyTask t fun a _ => ⟨rfl, rfl, fun _ he => he, ?_⟩
  intro r hr
  simp [Readiness.ready, hr]

theorem grows_spawn (h : Host) (j : Job) : h.Grows (h.spawn j).2 := by
  refine .of_tasks (fun t a ha => ⟨a, ?_, .refl a⟩) rfl rfl rfl rfl
  have ht : t ≠ h.tasks.length := by
    rintro rfl
    rw [task?_eq_none] at ha
    cases ha
  rw [task?_spawn, if_neg ht, ha]

theorem grows_deliver (h : Host) (s : OsSignal) : h.Grows (h.deliver s) := by
  refine .of_tasks (fun t a ha => ?_) rfl rfl rfl rfl
  simp only [task?, deliver, List.getElem?_map] at ha ⊢
  rw [ha]
  refine ⟨_, rfl, ?_⟩
  dsimp only
  split
  · exact ⟨rfl, rfl, fun _ he => he, fun _ hr => hr⟩
  · exact .refl a

/-! ## The end of a start -/

/-- A start that comes back before it reported has its result as the report. -/
theorem settle_of_unreported {h : Host} {t : TaskId} {r : ResourceId} {audience : Audience}
    {result : Except ResourceError Unit} {a : Task} (ha : h.task? t = some a)
    (hr : a.readiness.report = none) :
    h.settle t r audience result =
      (h.record (.came t result)).modifyTask t fun a => { a with readiness := ⟨some result⟩ } := by
  simp [settle, ha, Readiness.settle, hr]

/-- A start that comes back later makes an exit. -/
theorem settle_of_reported {h : Host} {t : TaskId} {r : ResourceId} {audience : Audience}
    {result : Except ResourceError Unit} {a : Task} {q : Except ResourceError Unit}
    (ha : h.task? t = some a) (hr : a.readiness.report = some q) :
    h.settle t r audience result =
      (h.record (.came t result)).addExit audience ⟨h.resourceName r, result⟩ := by
  simp [settle, ha, Readiness.settle, hr, resourceName, record, resource?]

@[simp] theorem job?_settle (h : Host) (t : TaskId) (r : ResourceId) (audience : Audience)
    (result : Except ResourceError Unit) (u : TaskId) :
    (h.settle t r audience result).job? u = h.job? u := by
  simp only [settle]
  split
  · rfl
  · split
    · exact job?_modifyTask _ t u fun _ => rfl
    · cases audience <;> rfl

@[simp] theorem outcome?_settle (h : Host) (t : TaskId) (r : ResourceId) (audience : Audience)
    (result : Except ResourceError Unit) (u : TaskId) :
    (h.settle t r audience result).outcome? u = h.outcome? u := by
  simp only [settle]
  split
  · rfl
  · split
    · exact outcome?_modifyTask _ t u fun _ => rfl
    · cases audience <;> rfl

theorem length_settle (h : Host) (t : TaskId) (r : ResourceId) (audience : Audience)
    (result : Except ResourceError Unit) :
    (h.settle t r audience result).tasks.length = h.tasks.length := by
  simp only [settle]
  split
  · rfl
  · split
    · exact List.length_modify ..
    · cases audience <;> rfl

theorem grows_settle (h : Host) (t : TaskId) (r : ResourceId) (audience : Audience)
    (result : Except ResourceError Unit) : h.Grows (h.settle t r audience result) := by
  cases ha : h.task? t with
  | none =>
    rw [settle, ha]
    exact .refl h
  | some a =>
    cases hr : a.readiness.report with
    | none =>
      rw [settle_of_unreported ha hr]
      refine (h.grows_record _).trans (grows_modifyTask _ t fun b hb => ?_)
      obtain rfl : a = b := Option.some.inj (ha.symm.trans hb)
      exact ⟨rfl, rfl, fun _ he => he, fun q hq => absurd (hr.symm.trans hq) (by simp)⟩
    | some q =>
      rw [settle_of_reported ha hr]
      refine (h.grows_record (.came t result)).trans ?_
      cases audience with
      | coordinator => exact .of_same rfl rfl rfl rfl (List.prefix_append ..)
      | direct => exact .of_same rfl rfl rfl rfl List.prefix_rfl

end Host

end ServiceHost.Lifecycle
