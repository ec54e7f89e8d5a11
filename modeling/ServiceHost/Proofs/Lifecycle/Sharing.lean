import ServiceHost.Lifecycle.Scheduler
import ServiceHost.Proofs.Lifecycle.Account
import ServiceHost.Proofs.Lifecycle.Beside

/-! One registry that many share. Registrations and drains take its lock in some order, and whoever drains
goes on after that side by side with everyone else. The first drain to take the lock ends the
registrations, and the actions that were accepted by then are its own. -/

namespace ServiceHost.Lifecycle

open Relation

variable {α β : Type} {h h' h'' : Host} {d : Instant}

/-! ## Routines side by side -/

theorem Tick.of_subset {s s' : List Signal} (hs : s ⊆ s') (m : Tick s' h h') : Tick s h h' := by
  obtain ⟨t, hle, hdue, rfl⟩ := m
  exact ⟨t, hle, fun e he => hdue e (hs he), rfl⟩

/-- The signals of a wait do no more than hold up the clock. -/
theorem Waits.free {E : Host → Host → Prop} {s : List Signal} (w : Waits E s h h') : Waits E [] h h' :=
  ReflTransGen.mono (fun _ _ => Or.imp_right (Tick.of_subset (List.nil_subset _))) _ _ w

namespace Routine

/-- What comes after a wait follows at once. -/
def resume : Routine α → Host → Routine α × Host
  | .step f next, h => (next h, f h)
  | r, h => (r, h)

/-- A routine goes on by itself. -/
inductive Goes : Routine α → Host → Routine α → Host → Prop where
  | step (f next h) : Goes (.step f next) h (next h) (f h)
  | wait {s next h i} : Picks s h i → Goes (.wait s next) h ((next i).resume h).1 ((next i).resume h).2
  | stay {s handle next h i} : Picks s h i → (handle i h).2 = false →
      Goes (.serve s handle next) h (.serve s handle next) (handle i h).1
  | leave {s handle next h i} : Picks s h i → (handle i h).2 = true →
      Goes (.serve s handle next) h (next i) (handle i h).1

/-- A routine that waits or is over, so that time may pass. -/
def Rests : Routine α → Prop
  | .step .. => False
  | _ => True

/-- What is left of a routine keeps to its terms, whatever the others do before it goes on. -/
def Stands (c : Terms) (Q : α → Host → Prop) (r : Routine α) (h : Host) : Prop :=
  ∀ h', Others c.rely h h' → r.Meets c Q h'

/-- What the terms promise is not undone by the others or by time. -/
structure Lasts (c : Terms) (Q : α → Host → Prop) : Prop where
  always : ∀ {signals a b}, c.rely a b ∨ Tick signals a b → c.always a → c.always b
  panics : ∀ {signals a b}, c.rely a b ∨ Tick signals a b → c.panics a → c.panics b
  result : ∀ {x signals a b}, c.rely a b ∨ Tick signals a b → Q x a → Q x b

section
variable {c : Terms} {Q : α → Host → Prop} {r r' : Routine α} {signals : List Signal}

/-- A routine that rests keeps to its terms while the others move and time passes. -/
theorem Lasts.waits (l : Lasts c Q) (hl : ¬ c.loops) (m : r.Meets c Q h) (hr : r.Rests)
    (w : Waits c.rely r.signals h h') : r.Meets c Q h' := by
  have hlast : ∀ {K : Host → Prop}, (∀ {a b}, c.rely a b ∨ Tick r.signals a b → K a → K b) → K h → K h' :=
    fun hK => w.preserve (fun m => hK (.inl m)) fun m => hK (.inr m)
  cases r with
  | done a => exact ⟨hlast l.always m.1, hlast l.result m.2⟩
  | panic p => exact ⟨hlast l.always m.1, hlast l.panics m.2⟩
  | step f next => exact hr.elim
  | wait s next => exact ⟨m.1, fun h₂ w₂ => m.2 h₂ (w.trans w₂)⟩
  | serve s handle next => exact absurd m.1 hl

theorem Lasts.stands (l : Lasts c Q) (hl : ¬ c.loops) (m : r.Meets c Q h) (hr : r.Rests) : Stands c Q r h :=
  fun _ o => l.waits hl m hr (Others.waits o)

theorem Lasts.resume (l : Lasts c Q) (hl : ¬ c.loops) (m : r.Meets c Q h) :
    Stands c Q (r.resume h).1 (r.resume h).2 := by
  cases r with
  | step f next => exact m.2.2
  | done a => exact l.stands hl m trivial
  | panic p => exact l.stands hl m trivial
  | wait s next => exact l.stands hl m trivial
  | serve s handle next => exact l.stands hl m trivial

namespace Stands

theorem meets (m : Stands c Q r h) : r.Meets c Q h := m h .refl

theorem others (m : Stands c Q r h) (he : c.rely h h') : Stands c Q r h' :=
  fun h₂ o => m h₂ (.head he o)

theorem tick (m : Stands c Q r h) (l : Lasts c Q) (hl : ¬ c.loops) (hr : r.Rests) (t : Tick r.signals h h') :
    Stands c Q r h' :=
  l.stands hl (l.waits hl m.meets hr (.single (.inr t))) hr

theorem goes (m : Stands c Q r h) (l : Lasts c Q) (hl : ¬ c.loops) (g : r.Goes h r' h') : Stands c Q r' h' := by
  cases g with
  | step f next h => exact m.meets.2.2
  | wait hi => exact l.resume hl ((m.meets.2 h .refl).2 _ hi)
  | stay _ _ => exact absurd m.meets.1 hl
  | leave _ _ => exact absurd m.meets.1 hl

end Stands

end

end Routine

open Routine

/-! ## Actions that were invoked -/

def Job.action? : Job → Option Action
  | .action a _ => some a
  | _ => none

/-- The actions that were put on a task, in the order in which they were. -/
def Host.invoked (h : Host) : List Action := (h.tasks.map (·.job)).filterMap Job.action?

theorem Host.invoked_of_grows (g : h.Grows h')
    (hnew : ∀ t b, h.tasks.length ≤ t → h'.task? t = some b → b.job.action? = none) :
    h'.invoked = h.invoked := by
  have hold : (h'.tasks.take h.tasks.length).map (·.job) = h.tasks.map (·.job) := by
    refine List.ext_getElem? fun t => ?_
    rw [List.getElem?_map, List.getElem?_map, List.getElem?_take]
    split
    · next hlt =>
      obtain ⟨b, hb, hgrown⟩ := g.tasks t _ (List.getElem?_eq_getElem hlt)
      rw [List.getElem?_eq_getElem hlt, show h'.tasks[t]? = some b from hb]
      exact congrArg some hgrown.job
    · next hge => rw [List.getElem?_eq_none (Nat.le_of_not_lt hge)]
  have hlate : ((h'.tasks.drop h.tasks.length).map (·.job)).filterMap Job.action? = [] := by
    rw [List.filterMap_eq_nil_iff]
    intro j hj
    obtain ⟨b, hb, rfl⟩ := List.mem_map.1 hj
    obtain ⟨i, hi⟩ := List.getElem?_of_mem hb
    rw [List.getElem?_drop] at hi
    exact hnew _ b (Nat.le_add_right _ _) hi
  rw [invoked, invoked, ← List.take_append_drop h.tasks.length h'.tasks, List.map_append,
    List.filterMap_append, hold, hlate, List.append_nil]

theorem Host.invoked_spawn (h : Host) (a : Action) (d : Instant) :
    (h.spawn (.action a d)).2.invoked = h.invoked ++ [a] := by
  simp [invoked, spawn, Job.action?]

theorem Frame.invoked_eq {l : List (Instant × Deed)} {A : List TaskId} (f : Frame nobody l A h h') :
    h'.invoked = h.invoked := by
  refine Host.invoked_of_grows f.grows fun t b hle hb => ?_
  rcases f.new_task hle hb with he | ⟨_, _, -, hd, -⟩
  · cases hj : b.job <;> rw [hj] at he <;> first | rfl | exact he.elim
  · exact False.elim hd

theorem Host.invoked_abort (h : Host) (t : TaskId) : (h.abort t).invoked = h.invoked := by
  refine invoked_of_grows (h.grows_finish t _) fun u b hle hb => ?_
  have hlt : u < (h.abort t).tasks.length := (List.getElem?_eq_some_iff.1 hb).1
  rw [abort, length_finish] at hlt
  exact absurd hle (Nat.not_le.2 hlt)

/-! ## What a drain invokes -/

/-- The terms of a drain that invokes nothing but these actions, in their order. -/
abbrev invokeTerms (all : List Action) : Terms :=
  { rely := Move nobody, always := fun g => g.invoked <+: all }

/-- A step that puts no action on a task. -/
def Invokeless (h h' : Host) : Prop := h'.invoked = h.invoked

theorem Invokeless.skipActions (as : List Action) : (skipActions as).Takes Invokeless := by
  induction as with
  | nil => trivial
  | cons a rest ih => exact Takes.bind (Takes.update fun _ => rfl) fun _ => ih.bind fun _ => .pure _

theorem Invokeless.recordOutcome (a : Action) (t : TaskId) (o : Outcome) :
    (recordOutcome a t o).Takes Invokeless := by
  unfold Lifecycle.recordOutcome
  split <;> exact Takes.bind (Takes.update fun _ => rfl) fun _ => .pure _

section
variable {all : List Action}

theorem meets_invokeless {r : Routine α} (hr : r.Takes Invokeless) (hi : h.invoked <+: all) :
    r.Meets (invokeTerms all) (fun _ g => g.invoked = h.invoked) h := by
  have m := (Takes.meets (E := Move nobody) hr h).tracks (R := Invokeless) (fun f f' => f'.trans f)
    (fun m => (Frame.of_move m).invoked_eq) id (fun m => (m.frame (D := nobody)).invoked_eq) rfl
  refine (m.mono fun _ _ _ hq => hq.2).weaken id (fun _ _ => trivial) (fun {g} ha => ?_) False.elim id
    fun _ _ => trivial
  show g.invoked <+: all
  rw [show g.invoked = h.invoked from ha.2]
  exact hi

theorem meets_runAction_invoked (a : Action) (hi : h.invoked ++ [a] <+: all) :
    (runAction a d).Meets (invokeTerms all) (fun _ g => g.invoked = h.invoked ++ [a]) h := by
  have hbefore : h.invoked <+: all := (List.prefix_append ..).trans hi
  unfold runAction
  split
  · exact ⟨hbefore, trivial⟩
  · refine meets_act.2 ⟨hbefore, trivial, fun h₁ o₁ => ?_⟩
    have hi₁ : h₁.invoked = h.invoked ++ [a] := by
      rw [o₁.peers.frame.invoked_eq, h.invoked_spawn]
    rw [← hi₁] at hi ⊢
    refine meets_invokeless (Takes.bind (Takes.waitAny _) fun i => ?_) hi
    split
    · refine Takes.bind (Takes.read (fun h => (rfl : Invokeless h h)) _) fun o => ?_
      split
      · exact Invokeless.recordOutcome a _ _
      · exact .pure _
    · exact Takes.bind (Takes.update fun h => h.invoked_abort _) fun _ => .pure _

/-- By induction over the actions. -/
theorem meets_runActions_invoked {as : List Action} (hi : h.invoked ++ as = all) :
    (runActions d as).Meets (invokeTerms all) (fun _ _ => True) h := by
  have hbefore : h.invoked <+: all := hi ▸ List.prefix_append ..
  induction as generalizing h with
  | nil => exact ⟨hbefore, trivial⟩
  | cons a rest ih =>
    refine meets_read.2 ⟨hbefore, trivial, fun h₁ o₁ => ?_⟩
    have hi₁ : h₁.invoked = h.invoked := o₁.peers.frame.invoked_eq
    split
    · exact (meets_invokeless (Invokeless.skipActions _) (hi₁ ▸ hbefore)).mono fun _ _ _ _ => trivial
    · have hnext : h₁.invoked ++ [a] <+: all :=
        ⟨rest, by rw [hi₁, ← hi, List.append_assoc, List.singleton_append]⟩
      refine (meets_runAction_invoked a hnext).andThen fun first h₂ ha hi₂ => ?_
      have hi₃ : h₂.invoked ++ rest = all := by
        rw [hi₂, hi₁, ← hi, List.append_assoc, List.singleton_append]
      exact (ih hi₃ ha).andThen fun _ _ ha _ => ⟨ha, trivial⟩

theorem meets_drain_invoked (hreg : h.registry = ⟨all, false⟩) (hi : h.invoked = []) :
    (drain d).Meets (invokeTerms all) (fun _ _ => True) h := by
  have hempty : ∀ {g : Host}, g.invoked = [] → g.invoked <+: all := fun hg => hg ▸ List.nil_prefix
  have hopen : h.registry.closed = false := by rw [hreg]
  refine meets_act.2 ⟨hempty hi, trivial, ?_⟩
  rw [Host.closeRegistry_of_open hopen, hreg]
  intro h₁ o₁
  have hi₁ : h₁.invoked = [] := o₁.peers.frame.invoked_eq.trans hi
  refine meets_update.2 ⟨hempty hi₁, trivial, fun h₂ o₂ => ?_⟩
  have hi₂ : h₂.invoked = [] := o₂.peers.frame.invoked_eq.trans hi₁
  refine (meets_runActions_invoked (by rw [hi₂, List.nil_append])).andThen fun fs h₃ ha _ => ?_
  refine meets_update.2 ⟨ha, trivial, fun h₄ o₄ => ⟨?_, trivial⟩⟩
  show h₄.invoked <+: all
  rw [show h₄.invoked = h₃.invoked from o₄.peers.frame.invoked_eq]
  exact ha

end

/-! ## The first drain -/

/-- The terms of the first drain: the registry stays closed, and of the actions that were accepted it
invokes one at a time, in their order. It panics only if the call of one of them does. -/
abbrev firstTerms (found : Host) (all : List Action) : Terms :=
  { turnTerms found all with
    always := fun g => g.registry = ⟨[], true⟩ ∧ OneAtATime found g ∧ g.invoked <+: all }

theorem lasts_first {found : Host} {all : List Action} :
    Lasts (firstTerms found all) fun fs g => ∃ turns, Drained d turns found fs g := by
  have hframe : ∀ {signals a b}, Move nobody a b ∨ Tick signals a b → Frame nobody [] [] a b := fun m =>
    m.elim Frame.of_move Tick.frame
  refine ⟨fun m ha => ?_, fun _ => id, fun m => Exists.imp fun _ r => r.frame (hframe m)⟩
  obtain ⟨hclosed, hone, hinvoked⟩ := ha
  refine ⟨((hframe m).grows.registry (by rw [hclosed])).trans hclosed, hone.frame (hframe m), ?_⟩
  rwa [(hframe m).invoked_eq]

theorem Routine.Goes.of_act {f : Host → β × Host} {k : β → Routine α} {r : Routine α}
    (g : (act f >>= k).Goes h r h') : r = k (f h).1 ∧ h' = (f h).2 := by
  cases g
  exact ⟨rfl, rfl⟩

/-- A drain that finds the registry closed is over at once. -/
theorem goes_drain_of_closed {r : Routine Failures} (hc : h.registry.closed = true)
    (g : (drain d).Goes h r h') :
    r = .done [] ∧ h' = h.emit .drainIgnored := by
  obtain ⟨rfl, rfl⟩ := Goes.of_act g
  rw [Host.closeRegistry_of_closed hc]
  exact ⟨rfl, rfl⟩

/-- How the first drain goes on once it has left the lock. -/
theorem stands_first {r : Routine Failures} {all : List Action} (hreg : h.registry = ⟨all, false⟩)
    (hi : h.invoked = []) (g : (drain d).Goes h r h') :
    Stands (firstTerms h all) (fun fs g => ∃ turns, Drained d turns h fs g) r h' := by
  obtain ⟨rfl, rfl⟩ := Goes.of_act g
  intro h₁ o
  have hopen : h.registry.closed = false := by rw [hreg]
  have hclosed : h.closeRegistry.2.registry = ⟨[], true⟩ := by rw [Host.closeRegistry_of_open hopen]
  have hturns := (meets_drain_turns (d := d) (.refl h) hopen).2.2 h₁ o
  have hinvoked := (meets_drain_invoked (d := d) hreg hi).2.2 h₁ o
  have htakes := Takes.meets (E := Move nobody) ((Outside.drain d).2 h) h₁
  have hgrows := htakes.tracks (R := Host.Grows) Host.Grows.trans Move.grows Beside.grows
    (fun m => (m.frame (D := nobody)).grows) (show h.closeRegistry.2.Grows h₁ from o.peers.frame.grows)
  have m := (hturns.and hinvoked id).and hgrows id
  refine (m.mono fun _ _ _ hq => hq.1.1.2).weaken id (fun _ _ => trivial) (fun ha => ?_) id
    (fun hl => hl.1.1) fun _ hp => ?_
  · exact ⟨(ha.2.2.registry (by rw [hclosed])).trans hclosed, ha.1.1, ha.1.2⟩
  · have hp' := hp.1.1
    rwa [hreg] at hp'

/-! ## Calls side by side -/

/-- A call that took the lock, and what a registration was told. -/
inductive Lock where
  | register (a : Action) (result : Except RegistryClosed Unit)
  | drain

namespace Lock

def accepted? : Lock → Option Action
  | register a (.ok ()) => some a
  | _ => none

/-- A call that comes too late: a registration is rejected with its own name. -/
def IsLate : Lock → Prop
  | register a result => result = .error ⟨a.name⟩
  | drain => True

theorem IsLate.not_accepted {l : Lock} (hl : l.IsLate) : l.accepted? = none := by
  cases l with
  | drain => rfl
  | register a result =>
    obtain rfl : result = _ := hl
    rfl

/-- Where a call stands that is no drain: before the first one, or after it. -/
theorem of_split {early late before after : List Lock} {l : Lock} (hearly : ∀ x ∈ early, x ≠ .drain)
    (hl : l ≠ .drain) (hs : early ++ .drain :: late = before ++ l :: after) :
    (.drain ∉ before ∧ l ∈ early) ∨ (.drain ∈ before ∧ l ∈ late) := by
  induction early generalizing before with
  | nil =>
    cases before with
    | nil => exact absurd (List.cons.inj hs).1.symm hl
    | cons y before =>
      obtain ⟨rfl, rfl⟩ := List.cons.inj hs
      exact .inr ⟨List.mem_cons_self, List.mem_append_right _ List.mem_cons_self⟩
  | cons x early ih =>
    cases before with
    | nil => exact .inl ⟨List.not_mem_nil, (List.cons.inj hs).1 ▸ List.mem_cons_self⟩
    | cons y before =>
      obtain ⟨rfl, hrest⟩ := List.cons.inj hs
      rcases ih (fun z hz => hearly z (List.mem_cons_of_mem _ hz)) hrest with ⟨hb, hmem⟩ | ⟨hb, hmem⟩
      · exact .inl ⟨fun hd => (List.mem_cons.1 hd).elim (fun hx => hearly x List.mem_cons_self hx.symm) hb,
          List.mem_cons_of_mem _ hmem⟩
      · exact .inr ⟨List.mem_cons_of_mem _ hb, hmem⟩

end Lock

/-- A drain: how it found the host, how it left the lock, and what is left of it. -/
structure DrainCall where
  deadline : Instant
  found : Host
  left : Host
  rest : Routine Failures

/-- A host whose registry is shared. -/
structure Sharing where
  host : Host
  /-- The calls in the order in which they took the lock. -/
  locks : List Lock := []
  /-- The drains among them. -/
  drains : List DrainCall := []

namespace Sharing

/-- The actions that were accepted, in the order in which their registrations took the lock. -/
def accepted (s : Sharing) : List Action := s.locks.filterMap Lock.accepted?

/-- One more call takes the lock and leaves the host so. -/
def take (s : Sharing) (l : Lock) (h : Host) : Sharing := { s with host := h, locks := s.locks ++ [l] }

/-- Anyone may register or drain at any time, an action that is being drained too. A drain that has left
the lock goes on when its turn comes. The others leave the registry to these calls. -/
inductive Step : Sharing → Sharing → Prop where
  | register (s a) : Step s (s.take (.register a (s.host.register a).1) (s.host.register a).2)
  | drain {s d rest h'} : (drain d).Goes s.host rest h' →
      Step s { s.take .drain h' with drains := s.drains ++ [⟨d, s.host, h', rest⟩] }
  | go {s before c after rest h'} : s.drains = before ++ c :: after → c.rest.Goes s.host rest h' →
      Step s { s with host := h', drains := before ++ { c with rest } :: after }
  | others {s h'} : Move nobody s.host h' → h'.registry = s.host.registry → Step s { s with host := h' }
  | tick {s h'} : (∀ c ∈ s.drains, c.rest.Rests) → Tick (s.drains.flatMap (·.rest.signals)) s.host h' →
      Step s { s with host := h' }

/-- No drain has taken the lock yet: every registration was accepted, and nothing is invoked. -/
structure Gathers (s : Sharing) : Prop where
  locks : s.locks = s.accepted.map fun a => .register a (.ok ())
  drains : s.drains = []
  registry : s.host.registry = ⟨s.accepted, false⟩
  invoked : s.host.invoked = []

/-- The first drain has taken the lock. -/
structure Drains (s : Sharing) (first : DrainCall) : Prop where
  /-- Registrations were accepted before the first drain and rejected after it. -/
  locks : ∃ late, s.locks = (s.accepted.map fun a => .register a (.ok ())) ++ .drain :: late ∧
    ∀ l ∈ late, l.IsLate
  /-- The later drains were over at once and did nothing. -/
  drains : ∃ later, s.drains = first :: later ∧
    ∀ c ∈ later, c.rest = .done [] ∧ c.left = c.found.emit .drainIgnored
  /-- What was accepted is what the first drain found. -/
  actions : first.found.registry.actions = s.accepted
  /-- It goes on to give every action its turn, whatever the others do, unless the call of one panics. -/
  stands : Stands (firstTerms first.found s.accepted)
    (fun fs g => ∃ turns, Drained first.deadline turns first.found fs g) first.rest s.host

variable {s s' : Sharing} {first : DrainCall}

theorem accepted_take (s : Sharing) (l : Lock) (h : Host) :
    (s.take l h).accepted = s.accepted ++ l.accepted?.toList := by
  rw [accepted, take, List.filterMap_append]
  cases hl : l.accepted? <;> simp [accepted, hl]

/-- A call that comes too late changes nothing in what was accepted. -/
theorem accepted_take_of_none {l : Lock} (hl : l.accepted? = none) : (s.take l h).accepted = s.accepted := by
  rw [accepted_take, hl, Option.toList_none, List.append_nil]

/-! ### Before the first drain -/

namespace Gathers

theorem opened (g : s.Gathers) : s.host.registry.closed = false := by rw [g.registry]

theorem register (g : s.Gathers) (a : Action) :
    (s.take (.register a (s.host.register a).1) (s.host.register a).2).Gathers := by
  rw [Host.told_of_open g.opened, Host.register_of_open g.opened]
  refine ⟨?_, g.drains, ?_, g.invoked⟩
  · rw [accepted_take, List.map_append, ← g.locks]
    rfl
  · rw [accepted_take, g.registry]
    rfl

theorem drain {rest : Routine Failures} (g : s.Gathers) (hgoes : (drain d).Goes s.host rest h') :
    Drains { s.take .drain h' with drains := s.drains ++ [⟨d, s.host, h', rest⟩] } ⟨d, s.host, h', rest⟩ := by
  have hacc : (s.take .drain h').accepted = s.accepted := accepted_take_of_none rfl
  refine ⟨⟨[], ?_, List.forall_mem_nil _⟩, ⟨[], ?_, List.forall_mem_nil _⟩, ?_, ?_⟩
  · show s.locks ++ [Lock.drain] = (s.take .drain h').accepted.map _ ++ [Lock.drain]
    rw [hacc, ← g.locks]
  · show s.drains ++ _ = _
    rw [g.drains, List.nil_append]
  · show s.host.registry.actions = (s.take .drain h').accepted
    rw [hacc, g.registry]
  · show Stands (firstTerms s.host (s.take .drain h').accepted) _ rest h'
    rw [hacc]
    exact stands_first g.registry g.invoked hgoes

/-- The others and time leave the registry and its actions as they are. -/
theorem frame (g : s.Gathers) (f : Frame nobody [] [] s.host h') (hreg : h'.registry = s.host.registry) :
    Gathers { s with host := h' } :=
  ⟨g.locks, g.drains, hreg.trans g.registry, f.invoked_eq.trans g.invoked⟩

/-- A step before the first drain is one of the gathering, or it is the first drain. -/
theorem step (g : s.Gathers) (m : Step s s') : s'.Gathers ∨ ∃ first, s'.Drains first := by
  cases m with
  | register a => exact .inl (g.register a)
  | drain hgoes => exact .inr ⟨_, g.drain hgoes⟩
  | go hc _ => rw [g.drains] at hc; simp at hc
  | others m hreg => exact .inl (g.frame (.of_move m) hreg)
  | tick _ m =>
    refine .inl (g.frame m.frame ?_)
    obtain ⟨t, -, -, rfl⟩ := m
    rfl

end Gathers

/-! ### After it -/

namespace Drains

theorem closed (c : s.Drains first) : s.host.registry = ⟨[], true⟩ := c.stands.meets.always.1

/-- A call that comes too late does no more than the others may. -/
theorem take {l : Lock} (c : s.Drains first) (hl : l.IsLate) (m : Move nobody s.host h') :
    (s.take l h').Drains first := by
  have hacc : (s.take l h').accepted = s.accepted := accepted_take_of_none hl.not_accepted
  obtain ⟨late, hlocks, hlate⟩ := c.locks
  refine ⟨⟨late ++ [l], ?_, ?_⟩, c.drains, hacc ▸ c.actions, ?_⟩
  · rw [hacc]
    show s.locks ++ [l] = _
    rw [hlocks, List.append_assoc, List.cons_append]
  · intro x hx
    exact (List.mem_append.1 hx).elim (hlate x) fun hx => List.mem_singleton.1 hx ▸ hl
  · rw [hacc]
    exact c.stands.others m

theorem drain {rest : Routine Failures} (c : s.Drains first) (hgoes : (drain d).Goes s.host rest h') :
    Drains { s.take .drain h' with drains := s.drains ++ [⟨d, s.host, h', rest⟩] } first := by
  obtain ⟨rfl, rfl⟩ := goes_drain_of_closed (by rw [c.closed]) hgoes
  have c' := c.take (l := .drain) trivial (.note s.host (.event .drainIgnored))
  obtain ⟨later, hdrains, hlater⟩ := c.drains
  refine ⟨c'.locks, ⟨later ++ [⟨d, s.host, s.host.emit .drainIgnored, .done []⟩], ?_, fun x hx => ?_⟩,
    c'.actions, c'.stands⟩
  · show s.drains ++ _ = _
    rw [hdrains, List.cons_append]
  · rcases List.mem_append.1 hx with hx | hx
    · exact hlater x hx
    · rw [List.mem_singleton.1 hx]
      exact ⟨rfl, rfl⟩

/-- Of the drains only the first goes on. -/
theorem go {before after : List DrainCall} {call : DrainCall} {rest : Routine Failures} (c : s.Drains first)
    (hc : s.drains = before ++ call :: after) (hgoes : call.rest.Goes s.host rest h') :
    Drains { s with host := h', drains := before ++ { call with rest } :: after } { first with rest } := by
  obtain ⟨later, hdrains, hlater⟩ := c.drains
  rw [hdrains] at hc
  cases before with
  | nil =>
    obtain ⟨rfl, rfl⟩ := List.cons.inj hc
    exact ⟨c.locks, ⟨_, rfl, hlater⟩, c.actions, c.stands.goes lasts_first id hgoes⟩
  | cons _ before =>
    have hmem : call ∈ later := (List.cons.inj hc).2 ▸ List.mem_append_right _ List.mem_cons_self
    rw [(hlater call hmem).1] at hgoes
    cases hgoes

theorem tick (c : s.Drains first) (hr : ∀ call ∈ s.drains, call.rest.Rests)
    (m : Tick (s.drains.flatMap (·.rest.signals)) s.host h') : Drains { s with host := h' } first := by
  obtain ⟨later, hdrains, -⟩ := c.drains
  have hmem : first ∈ s.drains := hdrains ▸ List.mem_cons_self
  have hm : Tick first.rest.signals s.host h' :=
    Tick.of_subset (fun x hx => List.mem_flatMap.2 ⟨first, hmem, hx⟩) m
  exact ⟨c.locks, c.drains, c.actions, c.stands.tick lasts_first id (hr first hmem) hm⟩

/-- After the first drain took the lock no action is accepted any more, and the drain stays the first. -/
theorem step (c : s.Drains first) (m : Step s s') :
    s'.accepted = s.accepted ∧ ∃ rest, s'.Drains { first with rest } := by
  cases m with
  | register a =>
    have hl : (Lock.register a (s.host.register a).1).IsLate := Host.told_of_closed (by rw [c.closed]) a
    exact ⟨accepted_take_of_none hl.not_accepted, _, c.take hl (.register s.host a)⟩
  | @drain _ _ g hgoes => exact ⟨accepted_take_of_none (h := g) rfl, _, c.drain hgoes⟩
  | go hc hgoes => exact ⟨rfl, _, c.go hc hgoes⟩
  | others m _ => exact ⟨rfl, _, c.locks, c.drains, c.actions, c.stands.others m⟩
  | tick hr m => exact ⟨rfl, _, c.tick hr m⟩

/-- By induction over the steps. -/
theorem steps (c : s.Drains first) (m : ReflTransGen Step s s') :
    s'.accepted = s.accepted ∧ ∃ rest, s'.Drains { first with rest } := by
  induction m with
  | refl => exact ⟨rfl, _, c⟩
  | tail _ m ih =>
    obtain ⟨hacc, _, c'⟩ := ih
    obtain ⟨hacc', rest, c''⟩ := c'.step m
    exact ⟨hacc'.trans hacc, rest, c''⟩

end Drains

/-! ### At any time -/

/-- The calls took effect one after another, in the order in which they took the lock. -/
structure Linear (s : Sharing) : Prop where
  /-- A registration before the first drain is accepted. -/
  accepts : ∀ {before a result after}, s.locks = before ++ .register a result :: after → Lock.drain ∉ before →
    result = .ok ()
  /-- A registration after a drain is rejected with its own name. -/
  rejects : ∀ {before a result after}, s.locks = before ++ .register a result :: after → Lock.drain ∈ before →
    result = .error ⟨a.name⟩
  gathers : Lock.drain ∉ s.locks → s.Gathers
  drains : Lock.drain ∈ s.locks →
    s.host.registry = ⟨[], true⟩ ∧ s.host.invoked <+: s.accepted ∧ ∃ first, s.Drains first

theorem Gathers.linear (g : s.Gathers) : s.Linear := by
  have hmem : ∀ {l}, l ∈ s.locks → ∃ a, l = .register a (.ok ()) := fun hl => by
    rw [g.locks] at hl
    obtain ⟨a, -, rfl⟩ := List.mem_map.1 hl
    exact ⟨a, rfl⟩
  have hdrain : Lock.drain ∉ s.locks := fun hl => nomatch hmem hl
  refine ⟨fun hs _ => ?_, fun hs hbefore => ?_, fun _ => g, fun hl => absurd hl hdrain⟩
  · obtain ⟨a, ha⟩ := hmem (hs ▸ List.mem_append_right _ List.mem_cons_self)
    exact (Lock.register.inj ha).2
  · exact absurd (hs ▸ List.mem_append_left _ hbefore) hdrain

theorem Drains.linear (c : s.Drains first) : s.Linear := by
  obtain ⟨late, hlocks, hlate⟩ := c.locks
  have hearly : ∀ l ∈ s.accepted.map (fun a => Lock.register a (.ok ())), ∃ a, l = .register a (.ok ()) := by
    intro l hl
    obtain ⟨a, -, rfl⟩ := List.mem_map.1 hl
    exact ⟨a, rfl⟩
  have hsplit : ∀ {before a result after}, s.locks = before ++ .register a result :: after →
      (Lock.drain ∉ before ∧ result = .ok ()) ∨ (Lock.drain ∈ before ∧ result = .error ⟨a.name⟩) := by
    intro before a result after hs
    have hnone : ∀ l ∈ s.accepted.map (fun a => Lock.register a (.ok ())), l ≠ .drain := by
      rintro _ hl rfl
      exact nomatch hearly _ hl
    have hne : Lock.register a result ≠ .drain := nofun
    rcases Lock.of_split hnone hne (hlocks.symm.trans hs) with ⟨hb, hl⟩ | ⟨hb, hl⟩
    · obtain ⟨b, hb'⟩ := hearly _ hl
      exact .inl ⟨hb, (Lock.register.inj hb').2⟩
    · exact .inr ⟨hb, hlate _ hl⟩
  have hmem : Lock.drain ∈ s.locks := hlocks ▸ List.mem_append_right _ List.mem_cons_self
  refine ⟨fun hs hb => ?_, fun hs hb => ?_, fun hn => absurd hmem hn, fun _ => ?_⟩
  · exact ((hsplit hs).resolve_right fun hl => hb hl.1).2
  · exact ((hsplit hs).resolve_left fun hl => hl.1 hb).2
  · exact ⟨c.closed, c.stands.meets.always.2.2, first, c⟩

/-- However the calls interleave, the registry is drained once: a registration is accepted if and only if
it takes the lock before the first drain, that drain gives every accepted action its turn in the order of
acceptance, and the others find nothing to do. -/
theorem registry_is_drained_once (hreg : h.registry = {}) (hi : h.invoked = [])
    (hs : ReflTransGen Step { host := h } s) :
    s.Linear ∧ ∀ s', ReflTransGen Step s s' → s.host.registry.closed = true →
      s'.host.registry.closed = true ∧ s'.accepted = s.accepted := by
  have hreach : s.Gathers ∨ ∃ first, s.Drains first := by
    induction hs with
    | refl => exact .inl ⟨rfl, rfl, hreg, hi⟩
    | tail _ m ih =>
      rcases ih with g | ⟨first, c⟩
      · exact g.step m
      · exact .inr ⟨_, (c.step m).2.choose_spec⟩
  rcases hreach with g | ⟨first, c⟩
  · exact ⟨g.linear, fun s' _ hc => by rw [g.opened] at hc; cases hc⟩
  · refine ⟨c.linear, fun s' m _ => ?_⟩
    obtain ⟨hacc, rest, c'⟩ := c.steps m
    exact ⟨by rw [c'.closed], hacc⟩

theorem goes_drain (h : Host) (d : Instant) : ∃ rest, (Lifecycle.drain d).Goes h rest h.closeRegistry.2 :=
  ⟨_, .step _ _ _⟩

/-- An action is registered and drained, and comes too late the second time, as does the second drain. -/
theorem registry_shared_by_four_calls :
    ∃ (h : Host) (s : Sharing), h.registry = {} ∧ h.invoked = [] ∧ ReflTransGen Step { host := h } s ∧
      s.locks = [.register { name := "flush", body := [.sleep 5] } (.ok ()), .drain,
        .register { name := "flush", body := [.sleep 5] } (.error ⟨"flush"⟩), .drain] ∧
      s.Linear ∧ ∀ s', ReflTransGen Step s s' → s.host.registry.closed = true →
        s'.host.registry.closed = true ∧ s'.accepted = s.accepted := by
  let h : Host := { coordinator := { config := {} } }
  let a : Action := { name := "flush", body := [.sleep 5] }
  obtain ⟨first, hfirst⟩ := goes_drain (h.register a).2 100
  obtain ⟨second, hsecond⟩ := goes_drain (((h.register a).2.closeRegistry.2).register a).2 100
  have hs : ReflTransGen Step { host := h } _ :=
    .tail (.tail (.tail (.single (.register _ a)) (.drain hfirst)) (.register _ a)) (.drain hsecond)
  exact ⟨h, _, rfl, rfl, hs, rfl, registry_is_drained_once rfl rfl hs⟩

end Sharing

end ServiceHost.Lifecycle
