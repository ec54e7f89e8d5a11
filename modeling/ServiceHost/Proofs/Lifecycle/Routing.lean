import ServiceHost.Proofs.Lifecycle.Channel
import ServiceHost.Proofs.Lifecycle.Sharing

/-! Where the result of a start goes. Whoever holds the context of a start may call it ready, the start comes back or
panics, and the coordinator gives up, in any order: the first of ready and the result is the report, and a result that
comes after a report is one exit. -/

namespace ServiceHost.Lifecycle

open Relation Routine

/-! ## Steps of a routine -/

namespace Routine

/-- A routine takes one step by itself; others may move before the next one, after a wait too. -/
inductive Advances {α : Type} : Routine α → Host → Routine α → Host → Prop where
  | step (f next h) : Advances (.step f next) h (next h) (f h)
  | wait {s next h i} (picks : Picks s h i) : Advances (.wait s next) h (next i) h
  | stay {s handle next h i} (picks : Picks s h i) (stays : (handle i h).2 = false) :
      Advances (.serve s handle next) h (.serve s handle next) (handle i h).1
  | leave {s handle next h i} (picks : Picks s h i) (leaves : (handle i h).2 = true) :
      Advances (.serve s handle next) h (next i) (handle i h).1

theorem Takes.advances {α : Type} {R : Host → Host → Prop} {left left' : Routine α} {h h' : Host}
    (refl : ∀ h, R h h) (takes : left.Takes R) (goes : left.Advances h left' h') : left'.Takes R ∧ R h h' := by
  cases goes with
  | step f next h => exact ⟨takes.2 h, takes.1 h⟩
  | wait _ => exact ⟨takes _, refl h⟩
  | stay _ _ => exact ⟨takes, takes.1 _ h⟩
  | leave _ _ => exact ⟨takes.2 _, takes.1 _ h⟩

end Routine

/-! ## What is left of the task of a start -/

section

variable (t : TaskId) (r : ResourceId) (audience : Audience)

/-- The end of a task. -/
def finishing : Except Payload (Except Cause Unit) → Routine Unit
  | .ok result => update (·.finish t (.returned result))
  | .error p => update (·.finish t (.panicked p))

/-- What comes after a start. -/
def settling (came : Except Payload (Except ResourceError Unit)) : Routine (Except Cause Unit) := do
  let result ←
    match came with
    | .ok result => pure result
    | .error p => pure (.error (ResourceError.ofPanic p))
  update (·.settle t r audience result)
  return .ok ()

/-- While this is left of the start. -/
def whileRunning (left : Routine (Except ResourceError Unit)) : Routine Unit :=
  (left.attempt >>= settling t r audience).attempt >>= finishing t

/-- While this is left of the call that gives the start. -/
def whileCalling (left : Routine Unit) : Routine Unit :=
  (left >>= fun _ => (runStart t r).attempt >>= settling t r audience).attempt >>= finishing t

theorem routine_start : Job.routine t (.start r audience) = whileCalling t r audience (callStart t r) := rfl

end

/-- A start came back with this result; a panic gives one, too. -/
def ComesTo (left : Routine (Except ResourceError Unit)) (q : Except ResourceError Unit) : Prop :=
  left = .done q ∨ ∃ p, left = .panic p ∧ q = .error (.ofPanic p)

variable {t : TaskId} {r : ResourceId} {audience : Audience} {h h' : Host} {q : Except ResourceError Unit}

theorem whileRunning_of_comesTo {left : Routine (Except ResourceError Unit)} (comes : ComesTo left q)
    (t : TaskId) (r : ResourceId) (audience : Audience) :
    whileRunning t r audience left = .step (·.settle t r audience q) fun _ => finishing t (.ok (.ok ())) := by
  rcases comes with rfl | ⟨p, rfl, rfl⟩ <;> rfl

theorem advances_whileRunning {left : Routine (Except ResourceError Unit)} {rest : Routine Unit}
    (goes : (whileRunning t r audience left).Advances h rest h') :
    (∃ left', left.Advances h left' h' ∧ rest = whileRunning t r audience left') ∨ ∃ q, ComesTo left q := by
  cases left with
  | done q => exact .inr ⟨q, .inl rfl⟩
  | panic p => exact .inr ⟨_, .inr ⟨p, rfl, rfl⟩⟩
  | step f next =>
    cases goes
    exact .inl ⟨_, .step f next h, rfl⟩
  | wait s next =>
    cases goes with
    | wait picks => exact .inl ⟨_, .wait picks, rfl⟩
  | serve s handle next =>
    cases goes with
    | stay picks stays => exact .inl ⟨_, .stay picks stays, rfl⟩
    | leave picks leaves => exact .inl ⟨_, .leave picks leaves, rfl⟩

/-! ## Quiet steps -/

/-- A step that sends nothing, unless the start on this task reports ready. -/
structure Quiet (t : TaskId) (r : ResourceId) (h h' : Host) : Prop where
  silent : h.report? t = some none → h'.report? t = some none ∨ h'.report? t = some (some (.ok ()))
  reported : ∀ q, h.report? t = some (some q) → h'.report? t = some (some q)
  exits : h'.exits = h.exits
  directExits : h'.directExits = h.directExits
  name : h'.resourceName r = h.resourceName r

namespace Quiet

variable {a b c : Host}

theorem of_aside (aside : Aside t r h h') (exits : h'.exits = h.exits) (directExits : h'.directExits = h.directExits) :
    Quiet t r h h' :=
  ⟨fun silent => .inl (aside.channel _ silent), fun _ => aside.channel _, exits, directExits, aside.name⟩

theorem refl (h : Host) : Quiet t r h h := of_aside (.of_same rfl rfl) rfl rfl

theorem trans (m : Quiet t r a b) (n : Quiet t r b c) : Quiet t r a c where
  silent silent := by
    rcases m.silent silent with silent | ready
    · exact n.silent silent
    · exact .inr (n.reported _ ready)
  reported q report := n.reported q (m.reported q report)
  exits := n.exits.trans m.exits
  directExits := n.directExits.trans m.directExits
  name := n.name.trans m.name

theorem ready (h : Host) (u : TaskId) : Quiet t r h (h.reportReady u) := by
  by_cases here : u = t
  · subst here
    refine ⟨fun silent => .inr (Host.report?_reportReady silent), fun q report => ?_, rfl, rfl, rfl⟩
    rw [Host.reportReady_of_reported report, report]
  · exact of_aside (.reportReady h here) rfl rfl

theorem finish (h : Host) (u : TaskId) (o : Outcome) : Quiet t r h (h.finish u o) := of_aside (.finish h u o) rfl rfl

theorem permits : Permits (Quiet t r) where
  refl := refl
  trans := trans
  note _ _ _ := of_aside (.of_same rfl rfl) rfl rfl
  record _ _ _ := of_aside (.of_same rfl rfl) rfl rfl
  fire _ _ := of_aside (.of_same rfl rfl) rfl rfl
  register h a := of_aside (.register h a) (by rw [Host.register_only]) (by rw [Host.register_only])
  closeRegistry h := of_aside (.closeRegistry h) (by rw [Host.closeRegistry_only]) (by rw [Host.closeRegistry_only])
  spawn h job := of_aside (.spawn h job) rfl rfl
  abort h u := finish h u .aborted
  ready := ready
  change h s _ same := of_aside (.change h s same) rfl rfl
  tally _ _ := of_aside (.of_same rfl rfl) rfl rfl
  dialed _ _ := of_aside (.of_same rfl rfl) rfl rfl

end Quiet

/-! ## A start and those around it -/

/-- What comes of a start: a report to the boot, or an exit. -/
inductive Sent where
  | report (result : Except ResourceError Unit)
  | exit (hearer : Audience) (e : Exit)

/-- The exits that wait for whoever hears of them. -/
def Host.queued (h : Host) : Audience → List Exit
  | .coordinator => h.exits
  | .direct => h.directExits

/-- What was sent between two hosts: a report that was not there before, and new exits to anyone. -/
def Host.sends (t : TaskId) (h h' : Host) : List Sent :=
  (if h'.readiness t = h.readiness t then [] else (h'.readiness t).toList.map .report) ++
    [Audience.coordinator, .direct].flatMap fun hearer =>
      ((h'.queued hearer).drop (h.queued hearer).length).map (.exit hearer)

theorem Host.sends_eq {a b : Option (Except ResourceError Unit)} {es : Audience → List Exit}
    (before : h.report? t = some a) (after : h'.report? t = some b)
    (queue : ∀ hearer, h'.queued hearer = h.queued hearer ++ es hearer) :
    h.sends t h' = (if b = a then [] else b.toList.map .report) ++
      [Audience.coordinator, .direct].flatMap fun hearer => (es hearer).map (.exit hearer) := by
  rw [sends, readiness_of_report? before, readiness_of_report? after]
  simp only [queue, List.drop_left]

/-- A step without exits sends at most a report. -/
theorem Host.sends_eq_report {a b : Option (Except ResourceError Unit)} (before : h.report? t = some a)
    (after : h'.report? t = some b) (queue : ∀ hearer, h'.queued hearer = h.queued hearer) :
    h.sends t h' = if b = a then [] else b.toList.map .report := by
  have none (hearer) : h'.queued hearer = h.queued hearer ++ (fun _ => []) hearer := by rw [queue, List.append_nil]
  rw [sends_eq before after none]
  exact List.append_nil _

theorem Quiet.queued (m : Quiet t r h h') (hearer : Audience) : h'.queued hearer = h.queued hearer := by
  cases hearer
  · exact m.exits
  · exact m.directExits

/-- The result of a start that reported nothing is its report. -/
theorem Host.settle_silent (h : Host) (silent : h.report? t = some none) (r : ResourceId) (audience : Audience)
    (q : Except ResourceError Unit) :
    (h.settle t r audience q).report? t = some (some q) ∧
      ∀ hearer, (h.settle t r audience q).queued hearer = h.queued hearer := by
  obtain ⟨x, here, report⟩ := Option.map_eq_some_iff.1 silent
  rw [settle_of_unreported here report]
  constructor
  · rw [report?, task?_modifyTask, if_pos rfl, show (h.record _).task? t = some x from here]
    rfl
  · rintro ⟨⟩ <;> rfl

/-- The result of a start that reported before is an exit. -/
theorem Host.settle_told (h : Host) {v : Except ResourceError Unit} (told : h.report? t = some (some v))
    (r : ResourceId) (audience : Audience) (q : Except ResourceError Unit) :
    (h.settle t r audience q).report? t = some (some v) ∧
      ∀ hearer, (h.settle t r audience q).queued hearer =
        h.queued hearer ++ if hearer = audience then [⟨h.resourceName r, q⟩] else [] := by
  obtain ⟨x, here, report⟩ := Option.map_eq_some_iff.1 told
  rw [settle_of_reported here report]
  refine ⟨by cases audience <;> exact told, fun hearer => ?_⟩
  cases audience <;> cases hearer <;> simp [queued, addExit, record]

/-- Settling a start is noted, so it is no step that changes nothing. -/
theorem Host.settle_ne_self {a : Option (Except ResourceError Unit)} (report : h.report? t = some a) :
    h.settle t r audience q ≠ h := by
  intro same
  obtain ⟨x, here, rfl⟩ := Option.map_eq_some_iff.1 report
  have longer := congrArg (·.history.length) same
  cases told : x.readiness.report with
  | none => simp [settle_of_unreported here told, modifyTask, record] at longer
  | some v => cases audience <;> simp [settle_of_reported here told, addExit, record] at longer

structure Starting where
  host : Host
  /-- What is left of its task, unless that was dropped. -/
  rest : Option (Routine Unit)
  /-- What came of the start so far, in order. -/
  sent : List Sent := []

namespace Starting

def launched (h : Host) (r : ResourceId) (audience : Audience) : Starting :=
  let (t, h') := h.launch r audience
  ⟨h', some (Job.routine t (.start r audience)), []⟩

section

variable (t : TaskId) (r : ResourceId) (audience : Audience)

/-- The host becomes another one; what was sent on the way is noted. -/
def become (x : Starting) (h' : Host) : Starting :=
  { x with host := h', sent := x.sent ++ x.host.sends t h' }

/-- The task goes on by itself. Whoever holds the context calls ready at any time. The coordinator gives up at any
time, and then the task is dropped if it has not begun or is at a wait. The others leave the channel and the name of
the resource alone. -/
inductive Step : Starting → Starting → Prop where
  | go {x rest rest' h'} (left : x.rest = some rest) (goes : rest.Advances x.host rest' h') :
      Step x { x.become t h' with rest := some rest' }
  | ready (x) : Step x (x.become t (x.host.reportReady t))
  | giveUp (x) : Step x (x.become t (x.host.abort t))
  | drop {x rest} (aborted : x.host.isAborted t = true) (left : x.rest = some rest)
      (idle : rest = Job.routine t (.start r audience) ∨ rest.Rests) : Step x { x with rest := none }
  | others {x h'} (aside : Aside t r x.host h') : Step x { x with host := h' }

/-- The start came back or panicked, and its result was not sent yet. -/
def CameBack (x : Starting) (q : Except ResourceError Unit) : Prop :=
  ∃ left, ComesTo left q ∧ x.rest = some (whileRunning t r audience left)

/-- The result was sent: as the report if there was none, else as an exit. Nothing follows. -/
structure Routed (name : String) (x : Starting) (q : Except ResourceError Unit) (y : Starting) : Prop where
  first : x.sent = [] → y.sent = [.report q]
  late : x.sent ≠ [] → y.sent = [.report (.ok ()), .exit audience ⟨name, q⟩]
  last : ∀ z, ReflTransGen (Step t r audience) y z → z.sent = y.sent

/-- What is true of a start at any time. -/
structure Routes (name : String) (x : Starting) : Prop where
  /-- There is at most one report, and at most one exit after a call of ready. -/
  sent : x.sent = [] ∨ (∃ q, x.sent = [.report q]) ∨
    ∃ q, x.sent = [.report (.ok ()), .exit audience ⟨name, q⟩]
  isReady : (x.host.readiness t).isSome = true ↔ x.sent ≠ []
  ready : ((x.host.reportReady t).readiness t).isSome = true
  late : x.sent ≠ [] → x.host.reportReady t = x.host
  lasts : ∀ y, ReflTransGen (Step t r audience) x y → x.sent <+: y.sent
  /-- Until the start comes back only a call of ready sends anything. -/
  early : (∀ q, ¬ CameBack t r audience x q) → ∀ y, Step t r audience x y →
    y.sent = x.sent ∨ x.sent = [] ∧ y.sent = [.report (.ok ())]
  /-- The task can go on to send the result. -/
  goes : ∀ q, CameBack t r audience x q → ∃ y, Step t r audience x y ∧ Routed t r audience name x q y
  /-- Nothing but that becomes of the result. -/
  routes : ∀ q, CameBack t r audience x q → ∀ y, Step t r audience x y →
    CameBack t r audience y q ∨ Routed t r audience name x q y
  /-- However long it takes. -/
  awaits : ∀ q, CameBack t r audience x q → ∀ y, ReflTransGen (Step t r audience) x y →
    CameBack t r audience y q ∨ y.sent = [.report q] ∨ y.sent = [.report (.ok ()), .exit audience ⟨name, q⟩]

/-- A change of the host that leaves the task where it is and comes about by such steps. -/
def Allows (h h' : Host) : Prop :=
  ∀ x : Starting, x.host = h → ∃ y, ReflTransGen (Step t r audience) x y ∧ y.host = h' ∧ y.rest = x.rest

end

/-! ### The others -/

theorem allows_of_around (m : Around t r h h') : Allows t r audience h h' := by
  rintro x rfl
  induction m with
  | refl => exact ⟨x, .refl, rfl, rfl⟩
  | tail _ m ih =>
    obtain ⟨y, steps, rfl, rest⟩ := ih
    rcases m with aside | rfl
    · exact ⟨_, steps.tail (.others aside), rfl, rest⟩
    · exact ⟨_, steps.tail (.ready y), rfl, rest⟩

/-- No other task of the table, whatever its job, and no run of the coordinator does anything else. -/
theorem others_are_allowed (t : TaskId) (r : ResourceId) (audience : Audience) :
    (∀ u job, u ≠ t → (Job.routine u job).Takes (Allows t r audience)) ∧ Lifecycle.run.Takes (Allows t r audience) :=
  ⟨fun _ job other => (Around.routine other job).mono allows_of_around, Around.run.mono allows_of_around⟩

/-! ### Stages -/

/-- Nothing is left of the task but its end. -/
inductive Ended (t : TaskId) : Option (Routine Unit) → Prop where
  | dropped : Ended t none
  | ending (outcome) : Ended t (some (finishing t outcome))
  | finished : Ended t (some (.done ()))

/-- How far the task has come. -/
inductive Stage (t : TaskId) (r : ResourceId) (audience : Audience) : Option (Routine Unit) → Prop where
  | calling {left} (takes : left.Takes (Quiet t r)) : Stage t r audience (some (whileCalling t r audience left))
  | running {left} (takes : left.Takes (Quiet t r)) : Stage t r audience (some (whileRunning t r audience left))
  | ended {rest} (ended : Ended t rest) : Stage t r audience rest

theorem Ended.go {rest rest' : Routine Unit} (ended : Ended t (some rest)) (goes : rest.Advances h rest' h') :
    Ended t (some rest') ∧ ∀ r, Quiet t r h h' := by
  cases ended with
  | ending outcome =>
    cases outcome <;> cases goes <;> exact ⟨.finished, fun _ => .finish h t _⟩
  | finished => cases goes

/-- The task takes quiet steps until the start comes back. -/
theorem Stage.go {rest rest' : Routine Unit} (stage : Stage t r audience (some rest))
    (goes : rest.Advances h rest' h') :
    (Stage t r audience (some rest') ∧ Quiet t r h h') ∨
      ∃ left q, ComesTo left q ∧ rest = whileRunning t r audience left := by
  cases stage with
  | ended ended =>
    obtain ⟨ended, quiet⟩ := ended.go goes
    exact .inl ⟨.ended ended, quiet r⟩
  | @running left takes =>
    rcases advances_whileRunning goes with ⟨left', on, rfl⟩ | ⟨q, comes⟩
    · obtain ⟨takes, quiet⟩ := takes.advances .refl on
      exact .inl ⟨.running takes, quiet⟩
    · exact .inr ⟨left, q, comes, rfl⟩
  | @calling left takes =>
    cases left with
    | done _ =>
      rcases advances_whileRunning goes with ⟨left', on, rfl⟩ | ⟨q, comes⟩
      · obtain ⟨takes, quiet⟩ := (Quiet.permits.runStart t r).advances .refl on
        exact .inl ⟨.running takes, quiet⟩
      · exact .inr ⟨_, q, comes, rfl⟩
    | panic p =>
      cases goes
      exact .inl ⟨.ended .finished, .finish h t _⟩
    | step f next =>
      cases goes
      exact .inl ⟨.calling (takes.2 h), takes.1 h⟩
    | wait s next =>
      cases goes with
      | wait picks => exact .inl ⟨.calling (takes _), .refl h⟩
    | serve s handle next =>
      cases goes with
      | stay picks stays => exact .inl ⟨.calling takes, takes.1 _ h⟩
      | leave picks leaves => exact .inl ⟨.calling (takes.2 _), takes.1 _ h⟩

/-! ### Before and after the result is sent -/

/-- What was sent before the result, with what the channel holds. -/
inductive Unsettled : List Sent → Option (Except ResourceError Unit) → Prop where
  | silent : Unsettled [] none
  | ready : Unsettled [.report (.ok ())] (some (.ok ()))

/-- What was sent with the result. -/
inductive Settled (audience : Audience) (name : String) (q : Except ResourceError Unit) :
    List Sent → Option (Except ResourceError Unit) → Prop where
  | report : Settled audience name q [.report q] (some q)
  | exit : Settled audience name q [.report (.ok ()), .exit audience ⟨name, q⟩] (some (.ok ()))

/-- The result was not sent. -/
structure Open (t : TaskId) (r : ResourceId) (audience : Audience) (name : String) (x : Starting) : Prop where
  stage : Stage t r audience x.rest
  told : ∃ v, x.host.report? t = some v ∧ Unsettled x.sent v
  name : x.host.resourceName r = name

/-- The result was sent. -/
structure Shut (t : TaskId) (audience : Audience) (name : String) (q : Except ResourceError Unit)
    (x : Starting) : Prop where
  ended : Ended t x.rest
  told : ∃ v, x.host.report? t = some v ∧ Settled audience name q x.sent v

/-- A step that sends the result. -/
structure Settles (t : TaskId) (audience : Audience) (name : String) (q : Except ResourceError Unit)
    (x y : Starting) : Prop where
  first : x.sent = [] → y.sent = [.report q]
  late : x.sent ≠ [] → y.sent = [.report (.ok ()), .exit audience ⟨name, q⟩]
  shut : Shut t audience name q y

variable {x y : Starting} {name : String} {sent : List Sent} {v : Option (Except ResourceError Unit)}

theorem Unsettled.quiet (u : Unsettled sent v) (report : h.report? t = some v) (quiet : Quiet t r h h') :
    ∃ v', h'.report? t = some v' ∧ Unsettled (sent ++ h.sends t h') v' := by
  cases u with
  | silent =>
    rcases quiet.silent report with still | ready
    · refine ⟨none, still, ?_⟩
      rw [Host.sends_eq_report report still quiet.queued]
      exact .silent
    · refine ⟨_, ready, ?_⟩
      rw [Host.sends_eq_report report ready quiet.queued]
      exact .ready
  | ready =>
    have still := quiet.reported _ report
    refine ⟨_, still, ?_⟩
    rw [Host.sends_eq_report report still quiet.queued]
    exact .ready

theorem Settled.quiet (s : Settled audience name q sent v) (report : h.report? t = some v) (quiet : Quiet t r h h') :
    h'.report? t = some v ∧ h.sends t h' = [] := by
  obtain ⟨w, rfl⟩ : ∃ w, v = some w := by cases s <;> exact ⟨_, rfl⟩
  have still := quiet.reported w report
  rw [Host.sends_eq_report report still quiet.queued]
  exact ⟨still, by simp⟩

theorem Open.quiet {rest : Option (Routine Unit)} (o : Open t r audience name x) (quiet : Quiet t r x.host h')
    (stage : Stage t r audience rest) : Open t r audience name { x.become t h' with rest } := by
  obtain ⟨v, report, unsettled⟩ := o.told
  exact ⟨stage, unsettled.quiet report quiet, quiet.name.trans o.name⟩

theorem Shut.quiet {rest : Option (Routine Unit)} (s : Shut t audience name q x) (quiet : Quiet t r x.host h')
    (ended : Ended t rest) :
    Shut t audience name q { x.become t h' with rest } ∧ (x.become t h').sent = x.sent := by
  obtain ⟨v, report, settled⟩ := s.told
  obtain ⟨still, none⟩ := settled.quiet report quiet
  have same : (x.become t h').sent = x.sent := by rw [become, none, List.append_nil]
  exact ⟨⟨ended, v, still, same ▸ settled⟩, same⟩

theorem Open.settle (o : Open t r audience name x) (q : Except ResourceError Unit) :
    Settles t audience name q x
      { x.become t (x.host.settle t r audience q) with rest := some (finishing t (.ok (.ok ()))) } := by
  obtain ⟨v, report, unsettled⟩ := o.told
  obtain ⟨host, rest, sent⟩ := x
  cases unsettled with
  | silent =>
    obtain ⟨after, queue⟩ := host.settle_silent report r audience q
    have sent : (become t ⟨host, rest, []⟩ (host.settle t r audience q)).sent = [.report q] :=
      Host.sends_eq_report report after queue
    refine ⟨fun _ => sent, fun some => absurd rfl some, .ending _, _, after, ?_⟩
    show Settled audience name q (become t ⟨host, rest, []⟩ _).sent _
    rw [sent]
    exact .report
  | ready =>
    obtain ⟨after, queue⟩ := host.settle_told report r audience q
    have same : host.resourceName r = name := o.name
    have sends : host.sends t (host.settle t r audience q) = [.exit audience ⟨name, q⟩] := by
      rw [Host.sends_eq report after queue, if_pos rfl, same]
      cases audience <;> rfl
    have sent : (become t ⟨host, rest, [.report (.ok ())]⟩ (host.settle t r audience q)).sent =
        [.report (.ok ()), .exit audience ⟨name, q⟩] :=
      congrArg ([Sent.report (.ok ())] ++ ·) sends
    refine ⟨nofun, fun _ => sent, .ending _, _, after, ?_⟩
    show Settled audience name q (become t ⟨host, rest, [.report (.ok ())]⟩ _).sent _
    rw [sent]
    exact .exit

/-- Only the task itself can send the result; nobody can drop the task before. -/
theorem Open.held (o : Open t r audience name x) (back : CameBack t r audience x q)
    (m : Step t r audience x y) : CameBack t r audience y q ∨ Settles t audience name q x y := by
  obtain ⟨left, comes, rest⟩ := back
  have next := whileRunning_of_comesTo comes t r audience
  cases m with
  | go here goes =>
    obtain rfl := Option.some.inj (rest.symm.trans here)
    rw [next] at goes
    cases goes
    exact .inr (o.settle q)
  | ready => exact .inl ⟨left, comes, rest⟩
  | giveUp => exact .inl ⟨left, comes, rest⟩
  | others _ => exact .inl ⟨left, comes, rest⟩
  | drop _ here idle =>
    obtain rfl := Option.some.inj (rest.symm.trans here)
    rw [next] at idle
    rcases idle with first | rests
    · have same := (Routine.step.inj first).1
      obtain ⟨v, report, -⟩ := o.told
      exact absurd (congrFun same x.host) (Host.settle_ne_self report)
    · exact rests.elim

theorem Open.step (o : Open t r audience name x) (m : Step t r audience x y) :
    Open t r audience name y ∨ ∃ q, CameBack t r audience x q ∧ Settles t audience name q x y := by
  cases m with
  | go here goes =>
    rcases (here ▸ o.stage).go goes with ⟨stage, quiet⟩ | ⟨left, q, comes, rfl⟩
    · exact .inl (o.quiet quiet stage)
    · rw [whileRunning_of_comesTo comes] at goes
      cases goes
      exact .inr ⟨q, ⟨left, comes, here⟩, o.settle q⟩
  | ready => exact .inl (o.quiet (.ready _ t) o.stage)
  | giveUp => exact .inl (o.quiet (.finish _ t _) o.stage)
  | drop _ _ _ => exact .inl ⟨.ended .dropped, o.told, o.name⟩
  | others aside =>
    obtain ⟨v, report, unsettled⟩ := o.told
    exact .inl ⟨o.stage, ⟨v, aside.channel v report, unsettled⟩, aside.name.trans o.name⟩

theorem Shut.not_cameBack (s : Shut t audience name q x) (q' : Except ResourceError Unit) :
    ¬ CameBack t r audience x q' := by
  rintro ⟨left, comes, rest⟩
  have ended := s.ended
  rw [rest, whileRunning_of_comesTo comes] at ended
  generalize same : some (Routine.step _ _) = rest at ended
  cases ended with
  | dropped => cases same
  | finished => cases same
  | ending outcome =>
    cases outcome <;> cases congrFun (Routine.step.inj (Option.some.inj same)).2 x.host

/-- Nothing is sent any more. -/
theorem Shut.step (s : Shut t audience name q x) (m : Step t r audience x y) :
    Shut t audience name q y ∧ y.sent = x.sent := by
  cases m with
  | go here goes =>
    obtain ⟨ended, quiet⟩ := (here ▸ s.ended).go goes
    exact s.quiet (quiet r) ended
  | ready => exact s.quiet (.ready (r := r) _ t) s.ended
  | giveUp => exact s.quiet (.finish (r := r) _ t _) s.ended
  | drop _ _ _ => exact ⟨⟨.dropped, s.told⟩, rfl⟩
  | others aside =>
    obtain ⟨v, report, settled⟩ := s.told
    exact ⟨⟨s.ended, v, aside.channel v report, settled⟩, rfl⟩

/-- By induction over the steps. -/
theorem Shut.steps (s : Shut t audience name q x) (m : ReflTransGen (Step t r audience) x y) :
    Shut t audience name q y ∧ y.sent = x.sent := by
  induction m with
  | refl => exact ⟨s, rfl⟩
  | tail _ m ih =>
    obtain ⟨shut, same⟩ := ih.1.step m
    exact ⟨shut, same.trans ih.2⟩

theorem Settles.routed (s : Settles t audience name q x y) : Routed t r audience name x q y :=
  ⟨s.first, s.late, fun _ m => (s.shut.steps m).2⟩

/-- By induction over the steps: a result that was not sent yet is still held. -/
theorem Open.steps (o : Open t r audience name x) (back : CameBack t r audience x q)
    (m : ReflTransGen (Step t r audience) x y) :
    (Open t r audience name y ∧ CameBack t r audience y q) ∨ Shut t audience name q y := by
  induction m with
  | refl => exact .inl ⟨o, back⟩
  | tail _ m ih =>
    rcases ih with ⟨o, back⟩ | shut
    · rcases o.held back m with still | settles
      · rcases o.step m with o | ⟨_, _, other⟩
        · exact .inl ⟨o, still⟩
        · exact absurd still (other.shut.not_cameBack q)
      · exact .inr settles.shut
    · exact .inr (shut.step m).1

/-- A step takes back nothing that was sent. -/
theorem sent_prefix (m : ReflTransGen (Step t r audience) x y) : x.sent <+: y.sent := by
  induction m with
  | refl => exact List.prefix_rfl
  | tail _ m ih =>
    cases m with
    | go | ready | giveUp => exact ih.trans (List.prefix_append ..)
    | drop | others => exact ih

/-! ### At any time -/

/-- The channel holds the first report that was sent. -/
def Holds (sent : List Sent) (v : Option (Except ResourceError Unit)) : Prop :=
  v = none ∧ sent = [] ∨ ∃ w rest, v = some w ∧ sent = .report w :: rest

theorem Unsettled.holds (u : Unsettled sent v) : Holds sent v := by
  cases u with
  | silent => exact .inl ⟨rfl, rfl⟩
  | ready => exact .inr ⟨_, _, rfl, rfl⟩

theorem Settled.holds (s : Settled audience name q sent v) : Holds sent v := by
  cases s <;> exact .inr ⟨_, _, rfl, rfl⟩

theorem Holds.isReady (report : x.host.report? t = some v) (holds : Holds x.sent v) :
    ((x.host.readiness t).isSome = true ↔ x.sent ≠ []) ∧
      ((x.host.reportReady t).readiness t).isSome = true ∧ (x.sent ≠ [] → x.host.reportReady t = x.host) := by
  rcases holds with ⟨rfl, sent⟩ | ⟨w, rest, rfl, sent⟩
  · have ready := Host.report?_reportReady report
    simp [Host.readiness_of_report? report, Host.readiness_of_report? ready, sent]
  · simp [Host.reportReady_of_reported report, Host.readiness_of_report? report, sent]

theorem Unsettled.sent_eq (u : Unsettled sent v) : sent = [] ∨ sent = [.report (.ok ())] := by
  cases u <;> simp

theorem Settled.sent_eq (s : Settled audience name q sent v) :
    sent = [.report q] ∨ sent = [.report (.ok ()), .exit audience ⟨name, q⟩] := by
  cases s <;> simp

theorem Open.sent_eq (o : Open t r audience name x) : x.sent = [] ∨ x.sent = [.report (.ok ())] := by
  obtain ⟨_, _, unsettled⟩ := o.told
  exact unsettled.sent_eq

theorem Shut.sent_eq (s : Shut t audience name q x) :
    x.sent = [.report q] ∨ x.sent = [.report (.ok ()), .exit audience ⟨name, q⟩] := by
  obtain ⟨_, _, settled⟩ := s.told
  exact settled.sent_eq

theorem Open.routes (o : Open t r audience name x) : Routes t r audience name x := by
  obtain ⟨v, report, unsettled⟩ := o.told
  obtain ⟨isReady, ready, late⟩ := unsettled.holds.isReady report
  constructor
  case sent => exact o.sent_eq.imp_right fun sent => .inl ⟨_, sent⟩
  case isReady => exact isReady
  case ready => exact ready
  case late => exact late
  case lasts => exact fun _ => sent_prefix
  case early =>
    intro away y m
    rcases o.step m with o' | ⟨q, back, -⟩
    · rcases o.sent_eq with none | ready
      · exact o'.sent_eq.imp (·.trans none.symm) fun ready => ⟨none, ready⟩
      · have kept := sent_prefix (.single m)
        rcases o'.sent_eq with none | ready'
        · simp [ready, none] at kept
        · exact .inl (ready'.trans ready.symm)
    · exact absurd back (away q)
  case goes =>
    rintro q ⟨left, comes, rest⟩
    refine ⟨_, .go rest ?_, (o.settle q).routed⟩
    rw [whileRunning_of_comesTo comes]
    exact .step _ _ _
  case routes => exact fun q back y m => (o.held back m).imp_right Settles.routed
  case awaits => exact fun q back y m => (o.steps back m).imp And.right Shut.sent_eq

theorem Shut.routes (s : Shut t audience name q x) : Routes t r audience name x := by
  obtain ⟨v, report, settled⟩ := s.told
  obtain ⟨isReady, ready, late⟩ := settled.holds.isReady report
  have away (q') : ¬ CameBack t r audience x q' := s.not_cameBack q'
  constructor
  case sent => exact .inr (s.sent_eq.imp (fun sent => ⟨_, sent⟩) fun sent => ⟨_, sent⟩)
  case isReady => exact isReady
  case ready => exact ready
  case late => exact late
  case lasts => exact fun _ => sent_prefix
  case early => exact fun _ y m => .inl (s.step m).2
  case goes => exact fun q back => absurd back (away q)
  case routes => exact fun q back => absurd back (away q)
  case awaits => exact fun q back => absurd back (away q)

theorem open_launched (h : Host) (r : ResourceId) (audience : Audience) :
    Open (h.launch r audience).1 r audience (h.resourceName r) (launched h r audience) := by
  have silent : (h.spawn (.start r audience)).2.report? h.tasks.length = some none := by
    rw [Host.report?, Host.task?_spawn, if_pos rfl]
    rfl
  have stage : Stage h.tasks.length r audience (some (Job.routine h.tasks.length (.start r audience))) := by
    rw [routine_start]
    exact .calling (Quiet.permits.callStart _ r)
  cases audience with
  | coordinator => exact ⟨stage, ⟨none, silent, .silent⟩, rfl⟩
  | direct => exact ⟨stage, ⟨none, silent, .silent⟩, rfl⟩

/-- The result of a start that came back is sent exactly once, as the report or as an exit, whoever else calls ready
and whenever the coordinator gives up. -/
theorem start_result_is_routed_once (h : Host) (r : ResourceId) (audience : Audience) {x : Starting}
    (reached : ReflTransGen (Step (h.launch r audience).1 r audience) (launched h r audience) x) :
    Routes (h.launch r audience).1 r audience (h.resourceName r) x := by
  have stands : Open (h.launch r audience).1 r audience (h.resourceName r) x ∨
      ∃ q, Shut (h.launch r audience).1 audience (h.resourceName r) q x := by
    induction reached with
    | refl => exact .inl (open_launched h r audience)
    | tail _ m ih =>
      rcases ih with o | ⟨q, s⟩
      · exact (o.step m).imp_right fun ⟨q, _, settles⟩ => ⟨q, settles.shut⟩
      · exact .inr ⟨q, (s.step m).1⟩
  rcases stands with o | ⟨q, s⟩
  · exact o.routes
  · exact s.routes

/-- Someone else calls ready between the return of a start and the sending of its result. -/
theorem ready_overtakes_a_result :
    ∃ (h : Host) (x : Starting), ReflTransGen (Step (h.launch 0 .coordinator).1 0 .coordinator)
      (launched h 0 .coordinator) x ∧ x.sent = [.report (.ok ()), .exit .coordinator ⟨"a", .ok ()⟩] ∧
      Routes (h.launch 0 .coordinator).1 0 .coordinator (h.resourceName 0) x := by
  let h : Host := { coordinator := { config := {} }, resources := [.scripted "a" {}] }
  have reached : ReflTransGen (Step 0 0 .coordinator) (launched h 0 .coordinator) _ :=
    .tail (.tail (.tail (.tail (.single (.go rfl (.step _ _ _))) (.go rfl (.step _ _ _))) (.go rfl (.step _ _ _)))
      (.ready _)) (.go rfl (.step _ _ _))
  exact ⟨h, _, reached, rfl, start_result_is_routed_once h 0 .coordinator reached⟩

end Starting

end ServiceHost.Lifecycle
