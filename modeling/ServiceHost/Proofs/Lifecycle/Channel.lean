import ServiceHost.Lifecycle.Coordinator
import ServiceHost.Proofs.Lifecycle.Hear
import ServiceHost.Proofs.Lifecycle.Parts
import ServiceHost.Proofs.Lifecycle.Shutdown
import ServiceHost.Proofs.Lifecycle.Takes

/-! The channel on which a start reports. A call of ready may come from anyone; apart from that only the task of the
start has a part in it. -/

namespace ServiceHost.Lifecycle

open Relation Routine

variable {α : Type} {t u : TaskId} {r : ResourceId} {h h' : Host}

/-! ## Reports -/

theorem Host.readiness_of_report? {a : Option (Except ResourceError Unit)} (report : h.report? t = some a) :
    h.readiness t = a := by
  obtain ⟨x, here, rfl⟩ := Option.map_eq_some_iff.1 report
  rw [readiness, here, Option.bind_some]

theorem Host.report?_modifyTask (h : Host) (u t : TaskId) {f : Task → Task}
    (same : ∀ x, (f x).readiness = x.readiness) : (h.modifyTask u f).report? t = h.report? t := by
  rw [report?, task?_modifyTask, report?]
  split
  · rw [Option.map_map]
    congr 1
    exact funext fun x => by simp [same]
  · rfl

theorem Host.report?_modifyTask_of_ne (h : Host) (other : u ≠ t) (f : Task → Task) :
    (h.modifyTask u f).report? t = h.report? t := by
  rw [report?, task?_modifyTask, if_neg other, report?]

theorem Host.report?_spawn {x : Option (Except ResourceError Unit)} (job : Job) (report : h.report? t = some x) :
    (h.spawn job).2.report? t = some x := by
  have known : t ≠ h.tasks.length := by
    rintro rfl
    rw [report?, task?_eq_none] at report
    cases report
  rw [report?, task?_spawn, if_neg known, ← report, report?]

/-- A call of ready that comes too late changes nothing. -/
theorem Host.reportReady_of_reported {q : Except ResourceError Unit} (report : h.report? t = some (some q)) :
    h.reportReady t = h := by
  obtain ⟨x, here, report⟩ := Option.map_eq_some_iff.1 report
  have same : x.readiness.ready = x.readiness := by rw [Readiness.ready, report]
  have tasks : h.tasks.modify t (fun x => { x with readiness := x.readiness.ready }) = h.tasks := by
    refine List.ext_getElem? fun u => ?_
    rw [List.getElem?_modify]
    split
    · next at_t =>
      subst at_t
      rw [show h.tasks[t]? = some x from here]
      simp [same]
    · exact id_map _
  rw [reportReady, modifyTask, tasks]

/-! ## Steps aside -/

/-- A step that leaves the channel of the start on this task alone, and the name of the resource. -/
structure Aside (t : TaskId) (r : ResourceId) (h h' : Host) : Prop where
  channel : ∀ v, h.report? t = some v → h'.report? t = some v
  name : h'.resourceName r = h.resourceName r

namespace Aside

theorem of_same (tasks : h'.tasks = h.tasks) (resources : h'.resources = h.resources) : Aside t r h h' where
  channel v report := by
    rw [Host.report?, Host.task?, tasks]
    exact report
  name := by rw [Host.resourceName, Host.resource?, resources, Host.resourceName, Host.resource?]

theorem trans {a b c : Host} (m : Aside t r a b) (n : Aside t r b c) : Aside t r a c :=
  ⟨fun v report => n.channel v (m.channel v report), n.name.trans m.name⟩

theorem register (h : Host) (a : Action) : Aside t r h (h.register a).2 := by
  rw [Host.register_only]
  exact .of_same rfl rfl

theorem closeRegistry (h : Host) : Aside t r h h.closeRegistry.2 := by
  rw [Host.closeRegistry_only]
  exact .of_same rfl rfl

theorem spawn (h : Host) (job : Job) : Aside t r h (h.spawn job).2 := ⟨fun _ => Host.report?_spawn job, rfl⟩

theorem finish (h : Host) (u : TaskId) (o : Outcome) : Aside t r h (h.finish u o) := by
  have same : (h.finish u o).report? t = h.report? t := h.report?_modifyTask u t fun x => by split <;> rfl
  exact ⟨fun _ report => same.trans report, rfl⟩

theorem change (h : Host) (s : ResourceId) {f : Resource → Resource} (same : ∀ x, (f x).name = x.name) :
    Aside t r h (h.modifyResource s f) :=
  ⟨fun _ => id, (Move.change h s same : Move (fun _ => False) h _).resourceName r⟩

theorem reportReady (h : Host) (other : u ≠ t) : Aside t r h (h.reportReady u) :=
  ⟨fun _ report => (h.report?_modifyTask_of_ne other _).trans report, rfl⟩

theorem settle (h : Host) (other : u ≠ t) (s : ResourceId) (audience : Audience) (q : Except ResourceError Unit) :
    Aside t r h (h.settle u s audience q) := by
  unfold Host.settle
  split
  · exact .of_same rfl rfl
  · dsimp only
    split
    · exact ⟨fun _ report => (Host.report?_modifyTask_of_ne _ other _).trans report, rfl⟩
    · cases audience <;> exact .of_same rfl rfl

theorem deliver (h : Host) (s : OsSignal) : Aside t r h (h.deliver s) := by
  refine ⟨fun v report => ?_, rfl⟩
  rw [← report, Host.report?, Host.task?, Host.deliver, List.getElem?_map, Option.map_map, Host.report?, Host.task?]
  congr 1
  funext x
  dsimp only [Function.comp_apply]
  split <;> rfl

theorem launch (h : Host) (s : ResourceId) (audience : Audience) : Aside t r h (h.launch s audience).2 := by
  cases audience
  · exact (spawn h _).trans (.of_same rfl rfl)
  · exact spawn h _

theorem onExit (h : Host) (e : Exit) : Aside t r h (h.onExit e) := by
  obtain ⟨_, _, -, heard⟩ := h.onExit_eq e
  rw [heard]
  exact .of_same rfl rfl

theorem hearExit (h : Host) : Aside t r h h.hearExit := by
  unfold Host.hearExit
  split
  · exact .of_same rfl rfl
  · next e rest _ => exact (of_same rfl rfl : Aside t r h { h with exits := rest }).trans (.onExit _ e)

theorem hearExits (h : Host) : Aside t r h h.hearExits := by
  obtain ⟨_, _, -, heard⟩ := Host.foldl_onExit_eq h.exits { h with exits := [] }
  rw [Host.hearExits, heard]
  exact .of_same rfl rfl

theorem reportExits (h : Host) : Aside t r h (reportExits h).2 := by
  obtain ⟨_, reported⟩ := reportExits_eq h
  rw [reported]
  exact .of_same rfl rfl

end Aside

/-- Any number of steps aside and of calls of ready. -/
abbrev Around (t : TaskId) (r : ResourceId) : Host → Host → Prop :=
  ReflTransGen fun h h' => Aside t r h h' ∨ h' = h.reportReady t

namespace Around

theorem aside (m : Aside t r h h') : Around t r h h' := .single (.inl m)

theorem permits : Permits (Around t r) where
  refl _ := .refl
  trans := .trans
  note _ _ _ := aside (.of_same rfl rfl)
  record _ _ _ := aside (.of_same rfl rfl)
  fire _ _ := aside (.of_same rfl rfl)
  register h a := aside (.register h a)
  closeRegistry h := aside (.closeRegistry h)
  spawn h job := aside (.spawn h job)
  abort h u := aside (.finish h u .aborted)
  ready h u := by
    by_cases here : u = t
    · exact .single (.inr (here ▸ rfl))
    · exact aside (.reportReady h here)
  change h s _ same := aside (.change h s same)
  tally _ _ := aside (.of_same rfl rfl)
  dialed _ _ := aside (.of_same rfl rfl)

theorem update {f : Host → Host} (steps : ∀ h, Aside t r h (f h)) : (update f).Takes (Around t r) :=
  Takes.update fun h => aside (steps h)

theorem act {f : Host → α × Host} (steps : ∀ h, Aside t r h (f h).2) : (act f).Takes (Around t r) :=
  Takes.act fun h => aside (steps h)

/-! ### Other tasks -/

theorem body (other : u ≠ t) (job : Job) : (job.body u).Takes (Around t r) := by
  cases job with
  | start s audience =>
    have settle (q : Except ResourceError Unit) : (Routine.update (·.settle u s audience q)).Takes (Around t r) :=
      update fun h => .settle h other s audience q
    refine Takes.bind (permits.callStart u s) fun _ => ?_
    refine Takes.bind (Takes.attempt (permits.runStart u s)) fun came => ?_
    cases came with
    | ok result => exact Takes.bind (.pure _) fun q => (settle q).bind fun _ => .pure _
    | error p => exact Takes.bind (.pure _) fun q => (settle q).bind fun _ => .pure _
  | action a d => exact Takes.bind (permits.say _ _) fun _ => permits.runScript _ _
  | triggerLater ms reason =>
    refine Takes.bind (permits.sleep ms) fun _ => Takes.bind (act fun _ => .of_same rfl rfl) fun _ => ?_
    exact Takes.bind (update fun _ => .of_same rfl rfl) fun _ => .pure _
  | listen =>
    refine Takes.bind (Takes.waitFor _) fun _ => Takes.bind (permits.read _) fun signal => ?_
    cases signal with
    | some s => exact Takes.bind (permits.emit rfl) fun _ => Takes.bind (act fun _ => .of_same rfl rfl) fun _ => .pure _
    | none => exact .pure _
  | sendWhenRunning signal =>
    exact Takes.bind (Takes.waitFor _) fun _ => Takes.bind (update fun h => .deliver h signal) fun _ => .pure _

/-- Any other task of the table, whatever its job. -/
theorem routine (other : u ≠ t) (job : Job) : (job.routine u).Takes (Around t r) := by
  refine Takes.bind (Takes.attempt (body other job)) fun came => ?_
  cases came with
  | ok result => exact update fun h => .finish h u _
  | error p => exact update fun h => .finish h u _

/-! ### The coordinator -/

theorem startResource (s : ResourceId) (audience : Audience) (ms : Nat) :
    (startResource s audience ms).Takes (Around t r) := by
  refine Takes.bind (permits.read _) fun name => Takes.bind (permits.emit rfl) fun _ => ?_
  refine Takes.bind (act fun h => .launch h s audience) fun u => Takes.bind (permits.read _) fun d => ?_
  refine Takes.bind (Takes.waitAny _) fun i => ?_
  split
  · refine Takes.bind (permits.read _) fun report => ?_
    unfold judgeReport
    split <;> exact Takes.bind (update fun _ => .of_same rfl rfl) fun _ => .pure _
  · exact Takes.bind (update fun h => (Aside.finish h u _).trans (.of_same rfl rfl)) fun _ => .pure _
  · refine Takes.bind (permits.read _) fun reason => ?_
    exact Takes.bind (update fun h => (Aside.finish h u _).trans (.of_same rfl rfl)) fun _ => .pure _

theorem startNext (s : ResourceId) : (startNext s).Takes (Around t r) := by
  refine Takes.bind (permits.read _) fun reason => ?_
  split
  · exact Takes.bind (permits.read _) fun _ => .pure _
  · exact Takes.bind (permits.read _) fun _ => startResource s _ _

theorem startEach (ss : List ResourceId) : (startEach ss).Takes (Around t r) := by
  induction ss with
  | nil => exact .pure _
  | cons s rest ih =>
    refine Takes.bind (startNext s) fun started => ?_
    cases started with
    | ok s => exact Takes.bind (update fun _ => .of_same rfl rfl) fun _ => ih
    | error e => exact Takes.bind (update fun _ => .of_same rfl rfl) fun _ => .pure _

theorem listenForSignals : listenForSignals.Takes (Around t r) := by
  refine update fun h => ?_
  unfold listen
  split
  · exact (Aside.spawn h _).trans (.of_same rfl rfl)
  · exact .of_same rfl rfl

theorem startAll : startAll.Takes (Around t r) := by
  refine Takes.bind (permits.read _) fun failure => ?_
  split
  · exact .pure _
  · refine Takes.bind (permits.read _) fun phase => ?_
    split
    · exact Takes.bind (permits.emit rfl) fun _ => .pure _
    · refine Takes.bind listenForSignals fun _ => Takes.bind (act fun _ => .of_same rfl rfl) fun pending => ?_
      refine Takes.bind (permits.emit rfl) fun _ => Takes.bind (startEach pending) fun booted => ?_
      cases booted with
      | error e => exact .pure _
      | ok _ => exact Takes.bind (update fun _ => .of_same rfl rfl) fun _ => .pure _

theorem awaitStop : awaitStop.Takes (Around t r) := by
  refine Takes.bind listenForSignals fun _ => ⟨fun i h => ?_, fun _ => ?_⟩
  · dsimp only
    split
    · exact .refl
    · exact aside (.hearExit h)
  · refine Takes.bind (permits.read _) fun reason => ?_
    exact Takes.bind (update fun h => (Aside.hearExits h).trans (.of_same rfl rfl)) fun _ => .pure _

theorem shutdown (reason : StopReason) : (shutdown reason).Takes (Around t r) := by
  refine Takes.bind (permits.read _) fun phase => ?_
  split
  · exact Takes.bind (permits.emit rfl) fun _ => .pure _
  · refine Takes.bind (act fun _ => .of_same rfl rfl) fun d => Takes.bind (permits.drain d) fun drained => ?_
    refine Takes.bind (act fun _ => .of_same rfl rfl) fun started => ?_
    refine Takes.bind (permits.closeEach d started) fun _ => Takes.bind (act fun h => .reportExits h) fun _ => ?_
    exact Takes.bind (update fun _ => .of_same rfl rfl) fun _ => .pure _

theorem run : run.Takes (Around t r) := by
  refine Takes.bind startAll fun booted => ?_
  cases booted with
  | error boot =>
    refine Takes.bind (permits.read _) fun _ => Takes.bind (shutdown _) fun failures => ?_
    split
    · exact Takes.bind (permits.emit rfl) fun _ => .pure _
    · exact Takes.bind (.pure _) fun _ => .pure _
  | ok _ =>
    refine Takes.bind awaitStop fun reason => Takes.bind (shutdown reason) fun failures => ?_
    refine Takes.bind (permits.read _) fun failure => ?_
    split <;> exact .pure _

end Around

end ServiceHost.Lifecycle
