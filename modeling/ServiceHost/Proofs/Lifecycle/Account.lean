import ServiceHost.Proofs.Lifecycle.Drain

/-! The account of a drain. When nobody else drains, every action has its turn, in the order of registration:
actions run one at a time to their end, one may be cut off at the deadline, and the rest is skipped. -/

namespace ServiceHost.Lifecycle

open Relation Routine

variable {h₀ h h' h'' : Host} {d : Instant}

/-- Nobody but the coordinator drains. -/
def nobody : Instant → Prop := fun _ => False

/-- What becomes of an action, and the task that it ran on. -/
inductive Turn where
  | done (a : Action) (t : TaskId)
  | failed (a : Action) (t : TaskId) (cause : Cause)
  | cut (a : Action) (t : TaskId)
  | skipped (a : Action)

namespace Turn

def action : Turn → Action
  | done a _ => a
  | failed a _ _ => a
  | cut a _ => a
  | skipped a => a

def task? : Turn → Option TaskId
  | done _ t => some t
  | failed _ t _ => some t
  | cut _ t => some t
  | skipped _ => none

def outcome : Turn → ActionOutcome
  | done .. => .ok
  | failed .. => .failed
  | cut .. => .timedOut
  | skipped _ => .skipped

/-- What a turn adds to the failures of a drain. -/
def failures : Turn → Failures
  | done .. => []
  | failed a _ cause => [.failed a.name cause]
  | cut a _ => [.timedOut a.name]
  | skipped a => [.skipped a.name]

def isCompleted : Turn → Bool
  | done .. | failed .. => true
  | _ => false

end Turn

/-- The action ran on the task, from before the deadline until `e`, and ended so. -/
def Host.Ran (h : Host) (a : Action) (t : TaskId) (d : Instant) (o : Outcome) (e : Instant) : Prop :=
  ∃ b, h.task? t = some b ∧ b.job = .action a d ∧ b.spawned < d ∧ b.ended = some (e, o)

/-- The table of tasks bears the turn out. -/
def Turn.Holds (h : Host) (d : Instant) : Turn → Prop
  | done a t => ∃ e, h.Ran a t d (.returned (.ok ())) e
  | failed a t cause =>
    ∃ e, h.Ran a t d (.returned (.error cause)) e ∨
      ∃ p, cause = Cause.ofPanic t p ∧ h.Ran a t d (.panicked p) e
  | cut a t => h.Ran a t d .aborted d
  | skipped _ => True

/-- Some turns are completed, the next may be cut off, and the others are skipped. -/
def InOrder (turns : List Turn) : Prop :=
  ∃ completed cut : List Turn, ∃ as : List Action, turns = completed ++ cut ++ as.map .skipped ∧
    (∀ x ∈ completed, x.isCompleted = true) ∧ (cut = [] ∨ ∃ a t, cut = [.cut a t])

/-- Every action task since `h₀`, but for the last, has ended. -/
def OneAtATime (h₀ h : Host) : Prop :=
  ∀ t u a b d e, h₀.tasks.length ≤ t → t < u → h.job? t = some (.action a d) →
    h.job? u = some (.action b e) → h.isEnded t = true

/-- Every action task since `h₀` has ended. -/
def NoneRuns (h₀ h : Host) : Prop :=
  ∀ t a d, h₀.tasks.length ≤ t → h.job? t = some (.action a d) → h.isEnded t = true

/-- From `h` to `h'` the actions had these turns. -/
structure Account (d : Instant) (as : List Action) (turns : List Turn) (h h' : Host) : Prop where
  grows : h.Grows h'
  actions : turns.map Turn.action = as
  inOrder : InOrder turns
  holds : ∀ x ∈ turns, x.Holds h' d
  /-- The tasks are new, and later turns have later tasks. -/
  fresh : ∀ t ∈ turns.filterMap Turn.task?, h.tasks.length ≤ t
  order : (turns.filterMap Turn.task?).Pairwise (· < ·)
  /-- No other action was put on a task. -/
  complete : ∀ t a e, h'.job? t = some (.action a e) →
    h.job? t = some (.action a e) ∨ t ∈ turns.filterMap Turn.task?
  metrics : h'.metrics.actions = h.metrics.actions ++ turns.map Turn.outcome
  drains : h'.metrics.drains = h.metrics.drains
  accepts : h.registry.closed = true → h'.accepts = h.accepts
  late : d ≤ h.now → turns = as.map .skipped

/-! ## One turn after another -/

theorem Host.Grows.length_le (g : h.Grows h') : h.tasks.length ≤ h'.tasks.length := by
  refine Nat.le_of_not_lt ?_
  intro hlt
  obtain ⟨b, hb, -⟩ := g.tasks h'.tasks.length _ (List.getElem?_eq_getElem hlt)
  rw [Host.task?_eq_none] at hb
  cases hb

theorem Host.Ran.grows {a : Action} {t : TaskId} {o : Outcome} {e : Instant} (g : h.Grows h')
    (r : h.Ran a t d o e) : h'.Ran a t d o e := by
  obtain ⟨b, hb, hj, hs, he⟩ := r
  obtain ⟨c, hc, hbc⟩ := g.tasks t b hb
  exact ⟨c, hc, hbc.job.trans hj, by rw [hbc.spawned]; exact hs, hbc.ended _ he⟩

theorem Turn.Holds.grows {x : Turn} (g : h.Grows h') (hx : x.Holds h d) : x.Holds h' d := by
  cases x with
  | done a t => exact hx.imp fun _ => Host.Ran.grows g
  | failed a t cause =>
    exact hx.imp fun _ => Or.imp (Host.Ran.grows g) fun ⟨p, hp, hr⟩ => ⟨p, hp, hr.grows g⟩
  | cut a t => exact Host.Ran.grows g hx
  | skipped a => trivial

/-- While nobody drains, no action is put on a task. -/
theorem Frame.job?_action {l : List (Instant × Deed)} {A : List TaskId} {t : TaskId} {a : Action}
    {e : Instant} (f : Frame nobody l A h h') (hj : h'.job? t = some (.action a e)) :
    h.job? t = some (.action a e) := by
  rcases Nat.lt_or_ge t h.tasks.length with hlt | hle
  · exact f.grows.job?_of_lt hlt hj
  · obtain ⟨b, hb, hbj⟩ := Option.map_eq_some_iff.1 hj
    rcases f.new_task hle hb with he | ⟨_, _, -, hd, -⟩
    · rw [hbj] at he
      exact he.elim
    · exact hd.elim

theorem NoneRuns.frame {l : List (Instant × Deed)} {A : List TaskId} (f : Frame nobody l A h h')
    (hn : NoneRuns h₀ h) : NoneRuns h₀ h' := by
  intro t a e hle hj
  exact f.grows.isEnded (hn t a e hle (f.job?_action hj))

theorem NoneRuns.oneAtATime (hn : NoneRuns h₀ h) : OneAtATime h₀ h :=
  fun t _ a _ d _ hle _ hj _ => hn t a d hle hj

theorem OneAtATime.frame {l : List (Instant × Deed)} {A : List TaskId} (f : Frame nobody l A h h')
    (ho : OneAtATime h₀ h) : OneAtATime h₀ h' := by
  intro t u a b d e hle hlt ht hu
  exact f.grows.isEnded (ho t u a b d e hle hlt (f.job?_action ht) (f.job?_action hu))

/-- The next action is put on a task when no other runs. -/
theorem NoneRuns.spawn (hn : NoneRuns h₀ h) (a : Action) (d : Instant) :
    OneAtATime h₀ (h.spawn (.action a d)).2 := by
  intro t u b c e e' hle hlt ht hu
  have hut : u < h.tasks.length + 1 := by simpa [Host.spawn] using Host.lt_of_job? hu
  have hne : t ≠ h.tasks.length := Nat.ne_of_lt (Nat.lt_of_lt_of_le hlt (Nat.le_of_lt_succ hut))
  rw [Host.job?_spawn, if_neg hne] at ht
  rw [Host.isEnded, Host.outcome?_spawn]
  exact hn t b e hle ht

namespace Account

variable {as : List Action} {turns : List Turn}

/-- Nothing happens to the account while only the others move. -/
theorem frame (c : Account d as turns h h') (f : Frame nobody [] [] h' h'') :
    Account d as turns h h'' :=
  { c with
    grows := c.grows.trans f.grows
    holds := fun x hx => (c.holds x hx).grows f.grows
    complete := fun t a e hj => c.complete t a e (f.job?_action hj)
    metrics := (f.quiet fun _ => id).2.1.trans c.metrics
    drains := (f.quiet fun _ => id).2.2.trans c.drains
    accepts := fun hc => (f.accepts (by rw [c.grows.registry hc]; exact hc)).trans (c.accepts hc) }

/-- The account may begin while only the others move. -/
theorem after (f : Frame nobody [] [] h h') (c : Account d as turns h' h'') :
    Account d as turns h h'' :=
  { c with
    grows := f.grows.trans c.grows
    fresh := fun t ht => Nat.le_trans f.grows.length_le (c.fresh t ht)
    complete := fun t a e hj => (c.complete t a e hj).imp_left f.job?_action
    metrics := by rw [c.metrics, (f.quiet fun _ => id).2.1]
    drains := c.drains.trans (f.quiet fun _ => id).2.2
    accepts := fun hc => (c.accepts (by rw [f.grows.registry hc]; exact hc)).trans (f.accepts hc)
    late := fun hle => c.late (Nat.le_trans hle f.grows.now) }

theorem nil (h : Host) : Account d [] [] h h where
  grows := .refl h
  actions := rfl
  inOrder := ⟨[], [], [], rfl, nofun, .inl rfl⟩
  holds := nofun
  fresh := nofun
  order := .nil
  complete _ _ _ hj := .inl hj
  metrics := (List.append_nil _).symm
  drains := rfl
  accepts _ := rfl
  late _ := rfl

/-- An action is skipped. -/
theorem skip (h : Host) (a : Action) (e : Event) :
    Account d [a] [.skipped a] h ({ h with metrics := h.metrics.recordAction .skipped }.emit e) where
  grows := .of_same rfl rfl rfl rfl List.prefix_rfl
  actions := rfl
  inOrder := ⟨[], [], [a], rfl, nofun, .inl rfl⟩
  holds x hx := by
    rw [List.mem_singleton.1 hx]
    trivial
  fresh := nofun
  order := .nil
  complete _ _ _ hj := .inl hj
  metrics := rfl
  drains := rfl
  accepts _ := rfl
  late _ := rfl

/-- An action is put on a task and comes to an end. -/
theorem turn {a : Action} {x : Turn} (hlt : h.now < d) (ha : x.action = a)
    (ht : x.task? = some h.tasks.length) (f : Frame nobody [] [] (h.spawn (.action a d)).2 h')
    (g : h'.Grows h'') (hx : x.Holds h'' d) (hjobs : ∀ t, h''.job? t = h'.job? t)
    (hm : h''.metrics.actions = h'.metrics.actions ++ [x.outcome])
    (hd : h''.metrics.drains = h'.metrics.drains) (hacc : h''.accepts = h'.accepts) :
    Account d [a] [x] h h'' where
  grows := (h.grows_spawn _).trans (f.grows.trans g)
  actions := congrArg (fun a => [a]) ha
  inOrder := by
    cases x with
    | done a t => exact ⟨[.done a t], [], [], rfl, by simp [Turn.isCompleted], .inl rfl⟩
    | failed a t c => exact ⟨[.failed a t c], [], [], rfl, by simp [Turn.isCompleted], .inl rfl⟩
    | cut a t => exact ⟨[], [.cut a t], [], rfl, nofun, .inr ⟨a, t, rfl⟩⟩
    | skipped a => cases ht
  holds y hy := by rwa [List.mem_singleton.1 hy]
  fresh t hmem := by
    rw [List.filterMap_cons_some ht] at hmem
    exact Nat.le_of_eq (List.mem_singleton.1 hmem).symm
  order := by rw [List.filterMap_cons_some ht]; exact List.pairwise_singleton ..
  complete t b e hj := by
    have hj' := f.job?_action ((hjobs t).symm.trans hj)
    rw [Host.job?_spawn] at hj'
    split at hj'
    · next heq => exact .inr (by rw [List.filterMap_cons_some ht, heq]; exact List.mem_cons_self)
    · exact .inl hj'
  metrics := hm.trans (congrArg (· ++ [x.outcome]) (f.quiet fun _ => id).2.1)
  drains := hd.trans (f.quiet fun _ => id).2.2
  accepts hc := hacc.trans (f.accepts hc)
  late hle := absurd hlt (Nat.not_lt.2 hle)

/-- One turn after another. -/
theorem cons {a : Action} {x : Turn} {rest : List Action} {xs : List Turn}
    (c : Account d [a] [x] h h') (c' : Account d rest xs h' h'')
    (hx : x.isCompleted = true ∨ xs = rest.map .skipped) : Account d (a :: rest) (x :: xs) h h'' where
  grows := c.grows.trans c'.grows
  actions := congrArg₂ List.cons (List.cons.inj c.actions).1 c'.actions
  inOrder := by
    rcases hx with hx | rfl
    · obtain ⟨completed, cut, as, rfl, hc, hcut⟩ := c'.inOrder
      refine ⟨x :: completed, cut, as, rfl, fun y hy => ?_, hcut⟩
      rcases List.mem_cons.1 hy with rfl | hy
      · exact hx
      · exact hc y hy
    · cases x with
      | done a t => exact ⟨[.done a t], [], rest, rfl, by simp [Turn.isCompleted], .inl rfl⟩
      | failed a t cause =>
        exact ⟨[.failed a t cause], [], rest, rfl, by simp [Turn.isCompleted], .inl rfl⟩
      | cut a t => exact ⟨[], [.cut a t], rest, rfl, nofun, .inr ⟨a, t, rfl⟩⟩
      | skipped a => exact ⟨[], [], a :: rest, rfl, nofun, .inl rfl⟩
  holds y hy := by
    rcases List.mem_cons.1 hy with rfl | hy
    · exact (c.holds y List.mem_cons_self).grows c'.grows
    · exact c'.holds y hy
  fresh t ht := by
    rw [← List.singleton_append, List.filterMap_append, List.mem_append] at ht
    exact ht.elim (c.fresh t) fun ht => Nat.le_trans c.grows.length_le (c'.fresh t ht)
  order := by
    rw [← List.singleton_append, List.filterMap_append]
    refine List.pairwise_append.2 ⟨c.order, c'.order, ?_⟩
    intro t ht u hu
    -- The task of the first turn is in the table before the later ones.
    obtain ⟨y, hy, hyt⟩ := List.mem_filterMap.1 ht
    refine Nat.lt_of_lt_of_le ?_ (c'.fresh u hu)
    have hran : ∀ {b o e}, h'.Ran b t d o e → t < h'.tasks.length := fun ⟨_, hb, _⟩ =>
      (List.getElem?_eq_some_iff.1 hb).1
    have hheld := c.holds y hy
    cases y with
    | done a u => cases hyt; obtain ⟨e, hr⟩ := hheld; exact hran hr
    | failed a u cause => cases hyt; obtain ⟨e, hr | ⟨p, -, hr⟩⟩ := hheld <;> exact hran hr
    | cut a u => cases hyt; exact hran hheld
    | skipped a => cases hyt
  complete t b e hj := by
    rw [← List.singleton_append, List.filterMap_append, List.mem_append]
    rcases c'.complete t b e hj with hj | ht
    · exact (c.complete t b e hj).imp_right .inl
    · exact .inr (.inr ht)
  metrics := by rw [c'.metrics, c.metrics, List.append_assoc]; rfl
  drains := c'.drains.trans c.drains
  accepts hc := (c'.accepts (by rw [c.grows.registry hc]; exact hc)).trans (c.accepts hc)
  late hle := congrArg₂ List.cons (List.cons.inj (c.late hle)).1
    (c'.late (Nat.le_trans hle c.grows.now))

end Account

/-! ## The loop over the actions -/

theorem meets_skipActions_account {as : List Action} (hn : NoneRuns h₀ h) :
    (skipActions as).Returns (Move nobody) (OneAtATime h₀) h
      (fun fs h' => NoneRuns h₀ h' ∧ fs = (as.map Turn.skipped).flatMap Turn.failures ∧
        Account d as (as.map .skipped) h h') := by
  induction as generalizing h with
  | nil => exact ⟨hn.oneAtATime, hn, rfl, .nil h⟩
  | cons a rest ih =>
    refine meets_update.2 ⟨hn.oneAtATime, trivial, ?_⟩
    intro h₁ o₁
    have hn₁ : NoneRuns h₀ h₁ := NoneRuns.frame o₁.peers.frame hn
    have c₁ : Account d [a] [.skipped a] h h₁ := (Account.skip h a _).frame o₁.peers.frame
    refine (ih hn₁).andThen ?_
    rintro fs h₂ _ ⟨hn₂, hfs, c₂⟩
    exact ⟨hn₂.oneAtATime, hn₂, congrArg (_ :: ·) hfs, c₁.cons c₂ (.inr rfl)⟩

/-- What holds when an action has had its turn. -/
def HadTurn (h₀ : Host) (a : Action) (d : Instant) (h : Host) (fs : Failures) (h' : Host) : Prop :=
  NoneRuns h₀ h' ∧ ∃ x, Account d [a] [x] h h' ∧ fs = x.failures ∧
    (x.isCompleted = true ∨ d ≤ h'.now)

section
variable {a : Action} {t : TaskId}

theorem NoneRuns.after_turn (hn : NoneRuns h₀ h) (hj : h'.isEnded h.tasks.length = true)
    (g : h.Grows h') (hjobs : ∀ t b e, h'.job? t = some (.action b e) →
      t = h.tasks.length ∨ h.job? t = some (.action b e)) : NoneRuns h₀ h' := by
  intro t b e hle ht
  rcases hjobs t b e ht with rfl | ht
  · exact hj
  · exact g.isEnded (hn t b e hle ht)

/-- The outcome of an action is counted, and its failure, if it is one, reported. -/
theorem meets_recordOutcome_account {o : Outcome} {e : Instant} (hn : NoneRuns h₀ h)
    (hlt : h.now < d) (f : Frame nobody [] [] (h.spawn (.action a d)).2 h')
    (hr : h'.Ran a h.tasks.length d o e) (ho : o ≠ .aborted) :
    (recordOutcome a h.tasks.length o).Returns (Move nobody) (OneAtATime h₀) h'
      (HadTurn h₀ a d h) := by
  have hended : h'.isEnded h.tasks.length = true := by
    obtain ⟨b, hb, -, -, he⟩ := hr
    simp [Host.isEnded, Host.outcome?, hb, Task.outcome?, he]
  have hn' : NoneRuns h₀ h' := hn.after_turn hended ((h.grows_spawn _).trans f.grows)
    fun t b e hj => by
      have hj' := f.job?_action hj
      rw [Host.job?_spawn] at hj'
      split at hj'
      · next heq => exact .inl heq
      · exact .inr hj'
  have hcount : ∀ {x : Turn} {ev : Event} {h'' : Host}, x.action = a →
      x.task? = some h.tasks.length → x.isCompleted = true →
      x.Holds ({ h' with metrics := h'.metrics.recordAction x.outcome }.emit ev) d →
      Others (Move nobody) ({ h' with metrics := h'.metrics.recordAction x.outcome }.emit ev) h'' →
      OneAtATime h₀ h'' ∧ HadTurn h₀ a d h x.failures h'' := by
    intro x ev h'' hxa hxt hxc hx o
    have hn'' : NoneRuns h₀ h'' := NoneRuns.frame o.peers.frame hn'
    have c : Account d [a] [x] h ({ h' with metrics := h'.metrics.recordAction x.outcome }.emit ev) :=
      Account.turn hlt hxa hxt f (.of_same rfl rfl rfl rfl List.prefix_rfl) hx (fun _ => rfl) rfl rfl
        rfl
    exact ⟨hn''.oneAtATime, hn'', x, c.frame o.peers.frame, rfl, .inl hxc⟩
  unfold recordOutcome
  split
  · refine meets_update.2 ⟨hn'.oneAtATime, trivial, ?_⟩
    intro h'' o
    exact hcount (x := .done a h.tasks.length) rfl rfl rfl ⟨e, hr⟩ o
  · refine meets_update.2 ⟨hn'.oneAtATime, trivial, ?_⟩
    intro h'' o
    exact hcount (x := .failed a h.tasks.length _) rfl rfl rfl ⟨e, .inl hr⟩ o
  · refine meets_update.2 ⟨hn'.oneAtATime, trivial, ?_⟩
    intro h'' o
    exact hcount (x := .failed a h.tasks.length _) rfl rfl rfl ⟨e, .inr ⟨_, rfl, hr⟩⟩ o
  · exact absurd rfl ho

/-- The task of an action that was put on it. -/
theorem Frame.invoked (f : Frame nobody [] [] (h.spawn (.action a d)).2 h') :
    ∃ b, h'.task? h.tasks.length = some b ∧ b.job = .action a d ∧ b.spawned = h.now := by
  have hb : (h.spawn (.action a d)).2.task? h.tasks.length =
      some ⟨.action a d, h.now, {}, none, none⟩ := by rw [Host.task?_spawn, if_pos rfl]
  obtain ⟨b, hb', hgrown⟩ := f.grows.tasks _ _ hb
  exact ⟨b, hb', hgrown.job, hgrown.spawned⟩

/-- While nobody drains an action is not aborted, so when its task has ended it ran to its end. -/
theorem Frame.ran (f : Frame nobody [] [] (h.spawn (.action a d)).2 h') (hlt : h.now < d)
    (he : h'.isEnded h.tasks.length = true) :
    ∃ o e, h'.outcome? h.tasks.length = some o ∧ o ≠ .aborted ∧ h'.Ran a h.tasks.length d o e := by
  obtain ⟨b, hb, hj, hs⟩ := f.invoked
  obtain ⟨o, ho⟩ := Option.isSome_iff_exists.1 he
  obtain ⟨e, hbe⟩ : ∃ e, b.ended = some (e, o) := by
    simpa [Host.outcome?, hb, Task.outcome?] using ho
  refine ⟨o, e, ho, ?_, b, hb, hj, by rw [hs]; exact hlt, hbe⟩
  rintro rfl
  have hj₀ : (h.spawn (.action a d)).2.job? h.tasks.length = some (.action a d) := by
    rw [Host.job?_spawn, if_pos rfl]
  have hnone := f.action (fun _ => id) hj₀ ho
  rw [Host.outcome?_spawn, Host.outcome?_eq_none h.job?_eq_none] at hnone
  cases hnone

/-- An action that had not ended at the deadline is cut off. -/
theorem Account.cut {e : Event} (f : Frame nobody [] [] (h.spawn (.action a d)).2 h') (hlt : h.now < d)
    (hnow : h'.now = d) (hopen : h'.isEnded h.tasks.length = false) :
    Account d [a] [.cut a h.tasks.length] h
      ({ h'.abort h.tasks.length with metrics := h'.metrics.recordAction .timedOut }.emit e) := by
  obtain ⟨b, hb, hj, hs⟩ := f.invoked
  have hnone : b.ended = none := by
    have ho : h'.outcome? h.tasks.length = none := Host.isEnded_eq_false.1 hopen
    simpa [Host.outcome?, hb, Task.outcome?] using ho
  have hran : (h'.abort h.tasks.length).Ran a h.tasks.length d .aborted d := by
    refine ⟨{ b with ended := some (h'.now, .aborted) }, ?_, hj, by rw [hs]; exact hlt,
      congrArg (fun e => some (e, Outcome.aborted)) hnow⟩
    rw [Host.abort, Host.finish, Host.task?_modifyTask, if_pos rfl, hb]
    simp [hnone]
  have g : h'.Grows (h'.abort h.tasks.length) := h'.grows_finish _ _
  exact .turn hlt rfl rfl f (g.trans (.of_same rfl rfl rfl rfl List.prefix_rfl)) hran
    (h'.job?_finish _ _) rfl rfl rfl

theorem meets_runAction_account (ha : a.callPanics = none) (hn : NoneRuns h₀ h) (hlt : h.now < d) :
    (runAction a d).Returns (Move nobody) (OneAtATime h₀) h (HadTurn h₀ a d h) := by
  unfold runAction
  rw [ha]
  refine meets_act.2 ⟨hn.oneAtATime, trivial, ?_⟩
  intro h₁ o₁
  rw [Host.spawn_fst]
  refine meets_waitAny.2 ⟨fun _ => ⟨d, by simp⟩, ?_⟩
  intro h₂ w
  have f₂ : Frame nobody [] [] (h.spawn (.action a d)).2 h₂ := o₁.peers.frame.trans w.peers.frame
  have hone : OneAtATime h₀ h₂ := OneAtATime.frame f₂ (hn.spawn a d)
  refine ⟨hone, ?_⟩
  intro i hi
  rcases picks_ended_or_due hi with ⟨rfl, he⟩ | ⟨rfl, hne, hdue⟩
  · refine meets_read.2 ⟨hone, trivial, ?_⟩
    intro h₃ o₃
    obtain ⟨o, e, ho, halive, hran⟩ := f₂.ran hlt he
    rw [ho]
    exact meets_recordOutcome_account hn hlt (f₂.trans o₃.peers.frame)
      (hran.grows o₃.peers.frame.grows) halive
  · refine meets_update.2 ⟨hone, trivial, ?_⟩
    intro h₃ o₃
    have hnow : h₂.now = d := by
      refine Nat.le_antisymm ?_ hdue
      have hle : h₂.now ≤ d ∨ h₂.now = h₁.now := Waits.now_le Move.now (by simp) w
      rcases hle with hle | heq
      · exact hle
      · rw [heq, o₁.peers.now]
        exact Nat.le_of_lt hlt
    have c : Account d [a] [.cut a h.tasks.length] h h₃ := (Account.cut f₂ hlt hnow hne).frame o₃.peers.frame
    have hended : h₃.isEnded h.tasks.length = true := by
      refine o₃.peers.frame.grows.isEnded ?_
      exact Host.isEnded_finish_self (f₂.grows.job? ((h.job?_spawn _ _).trans (if_pos rfl)))
    have hn₃ : NoneRuns h₀ h₃ := hn.after_turn hended c.grows fun t e e' hj =>
      (c.complete t e e' hj).symm.imp_left List.mem_singleton.1
    refine ⟨hn₃.oneAtATime, hn₃, _, c, rfl, .inr ?_⟩
    rw [o₃.peers.now]
    exact hdue

end

/-- The call of an action panicked before the deadline. From `h` to `h'` those before it had their turns, each to its
end, and no other action was put on a task. -/
def Torn (d : Instant) (as : List Action) (h h' : Host) : Prop :=
  ∃ before a after turns, as = before ++ a :: after ∧ (∀ b ∈ before, b.callPanics = none) ∧
    a.callPanics.isSome = true ∧ Account d before turns h h' ∧ (∀ x ∈ turns, x.isCompleted = true) ∧ h'.now < d

namespace Torn

variable {a : Action} {as : List Action} {x : Turn}

theorem isSome_callPanics (r : Torn d as h h') : ∃ a ∈ as, a.callPanics.isSome = true := by
  obtain ⟨before, a, after, -, rfl, -, hp, -⟩ := r
  exact ⟨a, List.mem_append_right _ List.mem_cons_self, hp⟩

theorem head {p : Payload} (ha : a.callPanics = some p) (hlt : h.now < d) : Torn d (a :: as) h h :=
  ⟨[], a, as, [], rfl, nofun, by rw [ha]; rfl, .nil h, nofun, hlt⟩

/-- Only others moved before. -/
theorem after (f : Frame nobody [] [] h h') (r : Torn d as h' h'') : Torn d as h h'' := by
  obtain ⟨before, a, after, turns, he, hcalls, hp, c, hall, hlt⟩ := r
  exact ⟨before, a, after, turns, he, hcalls, hp, c.after f, hall, hlt⟩

/-- An action had its turn before. As the deadline has not passed since, it was not cut off. -/
theorem cons (ha : a.callPanics = none) (c : Account d [a] [x] h h') (hx : x.isCompleted = true ∨ d ≤ h'.now)
    (r : Torn d as h' h'') : Torn d (a :: as) h h'' := by
  obtain ⟨before, b, after, turns, rfl, hcalls, hp, c', hall, hlt⟩ := r
  have hdone : x.isCompleted = true :=
    hx.resolve_right fun hle => Nat.not_lt.2 (Nat.le_trans hle c'.grows.now) hlt
  refine ⟨a :: before, b, after, x :: turns, rfl, ?_, hp, c.cons c' (.inl hdone), ?_, hlt⟩
  · exact List.forall_mem_cons.2 ⟨ha, hcalls⟩
  · exact List.forall_mem_cons.2 ⟨hdone, hall⟩

end Torn

/-- The terms of a drain of which no other part has a say, with what is known where it panics. -/
abbrev tornTerms (h₀ : Host) (torn : Host → Prop) : Terms :=
  { rely := Move nobody, always := OneAtATime h₀, timely := True, loops := False, panics := torn }

/-- The terms of a drain of these actions. It panics only if the call of one of them does. -/
abbrev turnTerms (h₀ : Host) (as : List Action) : Terms :=
  tornTerms h₀ fun _ => ∃ a ∈ as, a.callPanics.isSome = true

theorem meets_runActions_account {as : List Action} (hn : NoneRuns h₀ h) :
    (runActions d as).Meets (tornTerms h₀ (Torn d as h))
      (fun fs h' => NoneRuns h₀ h' ∧ ∃ turns, Account d as turns h h' ∧
        fs = turns.flatMap Turn.failures) h := by
  induction as generalizing h with
  | nil => exact ⟨hn.oneAtATime, hn, [], .nil h, rfl⟩
  | cons a rest ih =>
    refine meets_read.2 ⟨hn.oneAtATime, trivial, ?_⟩
    intro h₁ o₁
    have hn₁ : NoneRuns h₀ h₁ := NoneRuns.frame o₁.peers.frame hn
    split
    · refine ((meets_skipActions_account (d := d) hn₁).mono ?_).weaken id (fun _ => id) id id id fun _ => False.elim
      rintro fs h₂ _ ⟨hn₂, hfs, c⟩
      exact ⟨hn₂, _, c.after o₁.peers.frame, hfs⟩
    · next hexpired =>
      have hlt : h₁.now < d := by
        rw [o₁.peers.now]
        exact Nat.lt_of_not_le fun hle => hexpired (decide_eq_true hle)
      cases ha : a.callPanics with
      | some p =>
        simp only [runAction, ha]
        exact ⟨hn₁.oneAtATime, (Torn.head ha hlt).after o₁.peers.frame⟩
      | none =>
        have hfirst := (meets_runAction_account ha hn₁ hlt).weaken (k := tornTerms h₀ (Torn d (a :: rest) h)) id
          (fun _ => id) id id id fun _ => False.elim
        refine hfirst.andThen ?_
        rintro fs h₂ _ ⟨hn₂, x, c, hfs, hx⟩
        have hrest := (ih hn₂).weaken (k := tornTerms h₀ (Torn d (a :: rest) h)) id (fun _ => id) id id id
          fun _ r => (r.cons ha c hx).after o₁.peers.frame
        refine hrest.andThen ?_
        rintro fs' h₃ ho ⟨hn₃, xs, c', hfs'⟩
        have hnext : x.isCompleted = true ∨ xs = rest.map .skipped := hx.imp_right c'.late
        exact ⟨ho, hn₃, x :: xs, (c.cons c' hnext).after o₁.peers.frame, by rw [hfs, hfs']; rfl⟩

/-! ## A whole drain -/

/-- How an action that failed is counted. -/
def CleanupError.outcome : CleanupError → ActionOutcome
  | .failed .. => .failed
  | .timedOut _ => .timedOut
  | .skipped _ => .skipped

/-- From `h` to `h'` a drain has given every action its turn and reported the failures `fs`. -/
structure Drained (d : Instant) (turns : List Turn) (h : Host) (fs : Failures) (h' : Host) : Prop where
  actions : turns.map Turn.action = h.registry.actions
  inOrder : InOrder turns
  holds : ∀ x ∈ turns, x.Holds h' d
  /-- Later turns have later tasks. -/
  order : (turns.filterMap Turn.task?).Pairwise (· < ·)
  /-- An action was put on a task only for its turn, and before the deadline. -/
  invoked : ∀ t b a e, h.tasks.length ≤ t → h'.task? t = some b → b.job = .action a e →
    t ∈ turns.filterMap Turn.task? ∧ e = d ∧ b.spawned < d
  failures : fs = turns.flatMap Turn.failures
  /-- Failed actions are reported first, then one that was cut off, then those that were skipped. -/
  reported : ∃ failed cut skipped : Failures, fs = failed ++ cut ++ skipped ∧
    (∀ e ∈ failed, e.outcome = .failed) ∧ (cut = [] ∨ ∃ name, cut = [.timedOut name]) ∧
    ∀ e ∈ skipped, e.outcome = .skipped
  success : Failures.toExcept fs = .ok () ↔ ∀ x ∈ turns, x.outcome = .ok
  counted : h'.metrics.actions = h.metrics.actions ++ turns.map Turn.outcome
  /-- Failures are counted as what they are reported as. -/
  parts : ∀ o, o ≠ .ok → (turns.map Turn.outcome).count o = (fs.map CleanupError.outcome).count o
  timed : h'.metrics.drains = h.metrics.drains + 1
  closed : h'.registry = ⟨[], true⟩
  /-- From the beginning of the drain on no action is accepted. -/
  accepts : h'.accepts = h.accepts

theorem Turn.failures_outcome (x : Turn) :
    x.failures.map CleanupError.outcome = [x.outcome].filter (· ≠ .ok) := by
  cases x <;> rfl

theorem failures_eq_nil {turns : List Turn} :
    turns.flatMap Turn.failures = [] ↔ ∀ x ∈ turns, x.outcome = .ok := by
  rw [List.flatMap_eq_nil_iff]
  refine forall₂_congr ?_
  intro x _
  cases x <;> simp [Turn.failures, Turn.outcome]

theorem failures_count (turns : List Turn) {o : ActionOutcome} (ho : o ≠ .ok) :
    (turns.map Turn.outcome).count o = ((turns.flatMap Turn.failures).map CleanupError.outcome).count o := by
  have hfilter : (turns.flatMap Turn.failures).map CleanupError.outcome =
      (turns.map Turn.outcome).filter (· ≠ .ok) := by
    induction turns with
    | nil => rfl
    | cons x rest ih =>
      rw [List.flatMap_cons, List.map_append, ih, x.failures_outcome, List.map_cons,
        ← List.filter_append, List.singleton_append]
  rw [hfilter]
  exact (List.count_filter (by simpa using ho)).symm

theorem InOrder.reported {turns : List Turn} (ho : InOrder turns) :
    ∃ failed cut skipped : Failures, turns.flatMap Turn.failures = failed ++ cut ++ skipped ∧
      (∀ e ∈ failed, e.outcome = .failed) ∧ (cut = [] ∨ ∃ name, cut = [.timedOut name]) ∧
      ∀ e ∈ skipped, e.outcome = .skipped := by
  obtain ⟨completed, cut, as, rfl, hc, hcut⟩ := ho
  refine ⟨completed.flatMap Turn.failures, cut.flatMap Turn.failures,
    (as.map Turn.skipped).flatMap Turn.failures, by simp, fun e he => ?_, ?_, ?_⟩
  · obtain ⟨x, hx, he⟩ := List.mem_flatMap.1 he
    cases x with
    | done a t => cases he
    | failed a t cause => rw [List.mem_singleton.1 he]; rfl
    | cut a t => exact absurd (hc _ hx) Bool.false_ne_true
    | skipped a => exact absurd (hc _ hx) Bool.false_ne_true
  · rcases hcut with rfl | ⟨a, t, rfl⟩
    · exact .inl rfl
    · exact .inr ⟨a.name, rfl⟩
  · intro e he
    obtain ⟨x, hx, he⟩ := List.mem_flatMap.1 he
    obtain ⟨a, -, rfl⟩ := List.mem_map.1 hx
    rw [List.mem_singleton.1 he]
    rfl

theorem Turn.Holds.ran {x : Turn} {t : TaskId} (hx : x.Holds h d) (ht : x.task? = some t) :
    ∃ a o e, h.Ran a t d o e := by
  cases x with
  | done a u => cases ht; exact hx.elim fun e hr => ⟨a, _, e, hr⟩
  | failed a u cause =>
    cases ht
    obtain ⟨e, hr | ⟨p, -, hr⟩⟩ := hx
    · exact ⟨a, _, e, hr⟩
    · exact ⟨a, _, e, hr⟩
  | cut a u => cases ht; exact ⟨a, _, d, hx⟩
  | skipped a => cases ht

theorem Account.drained {turns : List Turn} {e : Event} (c : Account d h.registry.actions turns h h')
    (hc : h'.registry = ⟨[], true⟩) (hacc : h'.accepts = h.accepts) :
    Drained d turns h (turns.flatMap Turn.failures)
      ({ h' with metrics := h'.metrics.recordDrain }.emit e) where
  actions := c.actions
  inOrder := c.inOrder
  holds x hx := (c.holds x hx).grows (.of_same rfl rfl rfl rfl List.prefix_rfl)
  order := c.order
  invoked t b a f hle hb hj := by
    have hb' : h'.task? t = some b := hb
    have hmem : t ∈ turns.filterMap Turn.task? := by
      refine (c.complete t a f (Option.map_eq_some_iff.2 ⟨b, hb', hj⟩)).resolve_left ?_
      intro hold
      exact Nat.not_lt.2 hle (Host.lt_of_job? hold)
    obtain ⟨x, hx, hxt⟩ := List.mem_filterMap.1 hmem
    obtain ⟨a', o, e', b', hb'', hj', hs, -⟩ := (c.holds x hx).ran hxt
    obtain rfl : b' = b := Option.some.inj (hb''.symm.trans hb')
    obtain ⟨-, rfl⟩ : a' = a ∧ d = f := by simpa using hj'.symm.trans hj
    exact ⟨hmem, rfl, hs⟩
  failures := rfl
  reported := c.inOrder.reported
  success := by
    rw [← failures_eq_nil, Failures.toExcept]
    cases turns.flatMap Turn.failures <;> simp
  counted := c.metrics
  parts _ := failures_count turns
  timed := congrArg (· + 1) c.drains
  closed := hc
  accepts := hacc

theorem Drained.frame {turns : List Turn} {fs : Failures} (r : Drained d turns h fs h')
    (f : Frame nobody [] [] h' h'') : Drained d turns h fs h'' :=
  { r with
    holds := fun x hx => (r.holds x hx).grows f.grows
    invoked := fun t b a e hle hb hj => by
      have hj' : h'.job? t = some (.action a e) :=
        f.job?_action (Option.map_eq_some_iff.2 ⟨b, hb, hj⟩)
      obtain ⟨c, hc, hcj⟩ := Option.map_eq_some_iff.1 hj'
      obtain ⟨b', hb', hgrown⟩ := f.grows.tasks t c hc
      obtain rfl : b' = b := Option.some.inj (hb'.symm.trans hb)
      rw [hgrown.spawned]
      exact r.invoked t c a e hle hc hcj
    counted := (f.quiet fun _ => id).2.1.trans r.counted
    timed := (f.quiet fun _ => id).2.2.trans r.timed
    closed := (f.grows.registry (by rw [r.closed])).trans r.closed
    accepts := (f.accepts (by rw [r.closed])).trans r.accepts }

theorem NoneRuns.refl (h : Host) : NoneRuns h h := by
  intro _ _ _ hle hj
  exact absurd (Host.lt_of_job? hj) (Nat.not_lt.2 hle)

/-- The call of an action took down a drain that began in `h`, and left the registry closed and empty. -/
structure TornDown (d : Instant) (h h' : Host) : Prop where
  torn : Torn d h.registry.actions { h with registry := ⟨[], true⟩ } h'
  closed : h'.registry = ⟨[], true⟩

theorem Torn.down (r : Torn d h.registry.actions { h with registry := ⟨[], true⟩ } h') : TornDown d h h' where
  torn := r
  closed := by
    obtain ⟨_, _, _, _, -, -, -, c, -⟩ := r
    exact c.grows.registry rfl

/-- A drain gives every action its turn, unless the call of one takes it down. -/
theorem meets_drain_tearing (hn : NoneRuns h₀ h) (hopen : h.registry.closed = false) :
    (drain d).Meets (tornTerms h₀ (TornDown d h))
      (fun fs h' => NoneRuns h₀ h' ∧ ∃ turns, Drained d turns h fs h') h := by
  have hn₀ : NoneRuns h₀ { h with registry := ⟨[], true⟩ } := hn
  refine meets_act.2 ⟨hn.oneAtATime, trivial, ?_⟩
  intro h₁ o₁
  rw [Host.closeRegistry_of_open hopen] at o₁ ⊢
  have hn₁ : NoneRuns h₀ h₁ := hn₀.frame o₁.peers.frame
  refine meets_update.2 ⟨hn₁.oneAtATime, trivial, ?_⟩
  intro h₂ o₂
  have f₂ : Frame nobody [] [] { h with registry := ⟨[], true⟩ } h₂ :=
    (o₁.peers.frame.trans (.emit h₁ _)).trans o₂.peers.frame
  have hturns : (runActions d h.registry.actions).Meets (tornTerms h₀ (TornDown d h)) (fun fs h' => NoneRuns h₀ h' ∧
      ∃ turns, Account d h.registry.actions turns h₂ h' ∧ fs = turns.flatMap Turn.failures) h₂ :=
    (meets_runActions_account (hn₀.frame f₂)).weaken id (fun _ => id) id id id fun _ r => (r.after f₂).down
  refine hturns.andThen ?_
  rintro fs h₃ _ ⟨hn₃, turns, c, hfs⟩
  have c₀ : Account d h.registry.actions turns { h with registry := ⟨[], true⟩ } h₃ := c.after f₂
  have hclosed : h₃.registry = ⟨[], true⟩ := c₀.grows.registry rfl
  have hgrows : h.Grows h₃ := by
    refine Host.Grows.trans ?_ c₀.grows
    have hclose := h.grows_closeRegistry
    rwa [Host.closeRegistry_of_open hopen] at hclose
  refine meets_update.2 ⟨hn₃.oneAtATime, trivial, ?_⟩
  intro h₄ o₄
  have hn₄ : NoneRuns h₀ { h₃ with metrics := h₃.metrics.recordDrain } := hn₃
  have hn₅ : NoneRuns h₀ h₄ := NoneRuns.frame o₄.peers.frame hn₄
  have hdrained := Account.drained (e := .drainDone h.registry.actions.length fs.length)
    { c₀ with grows := hgrows, accepts := fun _ => c₀.accepts rfl } hclosed (c₀.accepts rfl)
  exact ⟨hn₅.oneAtATime, hn₅, turns, hfs ▸ hdrained.frame o₄.peers.frame⟩

theorem meets_drain_turns (hn : NoneRuns h₀ h) (hopen : h.registry.closed = false) :
    (drain d).Meets (turnTerms h₀ h.registry.actions)
      (fun fs h' => NoneRuns h₀ h' ∧ ∃ turns, Drained d turns h fs h') h :=
  (meets_drain_tearing hn hopen).weaken id (fun _ => id) id id id fun _ r => r.torn.isSome_callPanics

theorem meets_drain_account (hn : NoneRuns h₀ h) (hopen : h.registry.closed = false)
    (hcalls : ∀ a ∈ h.registry.actions, a.callPanics = none) :
    (drain d).Returns (Move nobody) (OneAtATime h₀) h
      (fun fs h' => NoneRuns h₀ h' ∧ ∃ turns, Drained d turns h fs h') :=
  (meets_drain_turns hn hopen).weaken id (fun _ => id) id id id fun _ ⟨a, ha, hp⟩ => by simp [hcalls a ha] at hp

/-- The first drain gives every action its turn, one at a time and in order, and reports and counts each as
what became of it, whatever the actions do and whenever the deadline is. -/
theorem drain_accounts_for_every_action (h : Host) (d : Instant) (hopen : h.registry.closed = false)
    (hcalls : ∀ a ∈ h.registry.actions, a.callPanics = none) :
    (drain d).Returns (Move nobody) (OneAtATime h) h
      (fun fs h' => ∃ turns, Drained d turns h fs h') :=
  (meets_drain_account (.refl h) hopen hcalls).mono fun _ _ _ hd => hd.2

/-- A registry with four actions, drained until 100: the first is done, the second fails, the third hangs, and the
fourth comes too late. -/
theorem drain_of_four_actions : ∃ (h h' : Host) (turns : List Turn),
    h.registry.actions.map Action.name = ["flush", "sync", "notify", "log"] ∧ h.registry.closed = false ∧
    (∀ a ∈ h.registry.actions, a.callPanics = none) ∧
    Run (Move nobody) (drain 100) h
      (.returned [.failed "sync" (.text "refused"), .timedOut "notify", .skipped "log"]) h' ∧
    h'.metrics.actions = [.ok, .failed, .timedOut, .skipped] ∧ h'.metrics.drains = 1 ∧
    Drained 100 turns h [.failed "sync" (.text "refused"), .timedOut "notify", .skipped "log"] h' := by
  obtain ⟨h, h', hnames, hopen, hcalls, hrun, hactions, hdrains⟩ : ∃ h h' : Host,
      h.registry.actions.map Action.name = ["flush", "sync", "notify", "log"] ∧ h.registry.closed = false ∧
      (∀ a ∈ h.registry.actions, a.callPanics = none) ∧
      Run (Move nobody) (drain 100) h
        (.returned [.failed "sync" (.text "refused"), .timedOut "notify", .skipped "log"]) h' ∧
      h'.metrics.actions = [.ok, .failed, .timedOut, .skipped] ∧ h'.metrics.drains = 1 := by
    refine ⟨{ coordinator := { config := {} },
              registry := ⟨[⟨"flush", [], none⟩, ⟨"sync", [.fail (.text "refused")], none⟩, ⟨"notify", [.hang], none⟩,
                ⟨"log", [], none⟩], false⟩ }, ?_⟩
    apply Exists.intro
    refine ⟨rfl, rfl, by simp, ?run, ?_, ?_⟩
    case run =>
      iterate 4 apply Run.step .refl
      apply Run.wait (i := 0) (.single (.inl (.finish (t := 0) (o := .returned (.ok ())) _ rfl trivial)))
        ⟨_, rfl, rfl, fun _ => nofun⟩
      iterate 4 apply Run.step .refl
      apply Run.wait (i := 0)
        (.single (.inl (.finish (t := 1) (o := .returned (.error (.text "refused"))) _ rfl trivial)))
        ⟨_, rfl, rfl, fun _ => nofun⟩
      iterate 4 apply Run.step .refl
      -- Nothing happens until the deadline.
      apply Run.wait (i := 1) (.single (.inr ⟨100, Nat.zero_le _, by simp, rfl⟩))
        ⟨.due 100, rfl, rfl, fun _ _ j hj s hs => ?_⟩
      · iterate 4 apply Run.step .refl
        exact .done _ _
      · obtain rfl := Nat.lt_one_iff.1 hj
        cases hs
        rfl
    · rfl
    · rfl
  obtain ⟨turns, hd⟩ := ((drain_accounts_for_every_action h 100 hopen hcalls).of_run hrun).2.1 _ rfl
  exact ⟨h, h', turns, hnames, hopen, hcalls, hrun, hactions, hdrains, hd⟩

end ServiceHost.Lifecycle
