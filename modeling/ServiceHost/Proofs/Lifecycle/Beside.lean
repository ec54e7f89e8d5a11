import ServiceHost.Proofs.Lifecycle.Calls
import ServiceHost.Proofs.Lifecycle.Takes

/-! Drains and closes leave the coordinator's records alone, whatever the others do in between; every step is candid
about the trigger, whose calls are logged with what they were told. -/

namespace ServiceHost.Lifecycle

open Relation Routine

variable {α β : Type} {D : Instant → Prop} {h h' h'' : Host} {s : Started} {d : Instant}

/-! ## The log of the trigger -/

/-- The calls of the trigger, oldest first. -/
def Host.triggerCalls (h : Host) : List (StopReason × Bool) := h.trace.filterMap (·.2.triggerCall?)

/-- One more call of a trigger with this log. -/
def Trigger.call (l : Trigger × List (StopReason × Bool)) (reason : StopReason) :
    Trigger × List (StopReason × Bool) :=
  ((l.1.fire reason).2, l.2 ++ [(reason, (l.1.fire reason).1)])

/-- From `h` to `h'` the trigger was called with some of the reasons in `G`, one after another, and not
touched otherwise. -/
def Candid (G : StopReason → Prop) (h h' : Host) : Prop :=
  ∃ reasons : List StopReason, (∀ reason ∈ reasons, G reason) ∧
    (h'.trigger, h'.triggerCalls) = reasons.foldl Trigger.call (h.trigger, h.triggerCalls)

def anyReason : StopReason → Prop := fun _ => True

theorem Host.triggerCalls_note (h : Host) (n : Note) :
    (h.note n).triggerCalls = h.triggerCalls ++ n.triggerCall?.toList := by
  cases hn : n.triggerCall? <;> simp [triggerCalls, note, hn]

theorem Host.triggerCalls_emit (h : Host) {e : Event} (he : e.triggerCall? = none) :
    (h.emit e).triggerCalls = h.triggerCalls := by
  rw [Host.emit, triggerCalls_note, Note.triggerCall?, he, Option.toList_none, List.append_nil]

theorem Host.triggerCalls_fire (h : Host) (reason : StopReason) :
    (h.fire reason).2.triggerCalls = h.triggerCalls ++ [(reason, (h.fire reason).1)] := by
  unfold fire Host.emit
  rw [triggerCalls_note]
  cases (h.trigger.fire reason).1 <;> rfl

namespace Candid

variable {G : StopReason → Prop}

theorem of_same (ht : h'.trigger = h.trigger) (hc : h'.triggerCalls = h.triggerCalls) : Candid G h h' :=
  ⟨[], nofun, by rw [ht, hc]; rfl⟩

theorem refl (h : Host) : Candid G h h := of_same rfl rfl

theorem trans (c : Candid G h h') (c' : Candid G h' h'') : Candid G h h'' := by
  obtain ⟨rs, hg, hr⟩ := c
  obtain ⟨rs', hg', hr'⟩ := c'
  refine ⟨rs ++ rs', fun r hmem => ?_, by rw [List.foldl_append, ← hr, hr']⟩
  exact (List.mem_append.1 hmem).elim (hg r) (hg' r)

theorem mono {G' : StopReason → Prop} (hG : ∀ {r}, G r → G' r) (c : Candid G h h') : Candid G' h h' := by
  obtain ⟨rs, hg, hr⟩ := c
  exact ⟨rs, fun r hmem => hG (hg r hmem), hr⟩

theorem fire (h : Host) {reason : StopReason} (hg : G reason) : Candid G h (h.fire reason).2 :=
  ⟨[reason], fun _ hmem => List.mem_singleton.1 hmem ▸ hg, Prod.ext rfl (h.triggerCalls_fire reason)⟩

theorem emit (h : Host) {e : Event} (he : e.triggerCall? = none) : Candid G h (h.emit e) :=
  of_same rfl (h.triggerCalls_emit he)

theorem onExit (h : Host) (e : Exit) : Candid anyReason h (h.onExit e) := by
  unfold Host.onExit
  split
  · exact emit h rfl
  · exact emit h rfl
  · exact (emit h rfl).trans ((fire _ trivial).trans (of_same rfl rfl))

theorem foldl {f : Host → Exit → Host} (hf : ∀ g e, Candid G g (f g e)) (es : List Exit) (h : Host) :
    Candid G h (es.foldl f h) := by
  induction es generalizing h with
  | nil => exact refl h
  | cons e rest ih => exact (hf h e).trans (ih _)

end Candid

/-! ## Beside the coordinator -/

/-- What was added, and what the boots did, oldest first. -/
def Host.early (h : Host) : List Deed := h.doings.filter (·.isEarly)

theorem Move.early (m : Move D h h') : h'.early = h.early := by
  rw [Host.early, Host.doings, m.conduct, Host.early, Host.doings]

theorem Host.early_record (h : Host) {d : Deed} (hd : d.isEarly = false) : (h.record d).early = h.early := by
  cases hf : d.isForeign with
  | true => simp [early, doings, conduct, record, hf]
  | false => simp [early, h.doings_record hf, hd]

/-- A step that leaves the coordinator's records and the clock alone, and neither adds nor boots. -/
structure Beside (h h' : Host) : Prop where
  coordinator : h'.coordinator = h.coordinator
  now : h'.now = h.now
  grows : h.Grows h'
  candid : Candid anyReason h h'
  early : h'.early = h.early

namespace Beside

theorem refl (h : Host) : Beside h h := ⟨rfl, rfl, .refl h, .refl h, rfl⟩

theorem trans (b : Beside h h') (b' : Beside h' h'') : Beside h h'' :=
  ⟨b'.coordinator.trans b.coordinator, b'.now.trans b.now, b.grows.trans b'.grows, b.candid.trans b'.candid,
    b'.early.trans b.early⟩

theorem note (h : Host) {n : Note} (hn : n.triggerCall? = none) : Beside h (h.note n) := by
  refine ⟨rfl, rfl, h.grows_note n, .of_same rfl ?_, rfl⟩
  rw [Host.triggerCalls_note, hn, Option.toList_none, List.append_nil]

theorem emit (h : Host) {e : Event} (he : e.triggerCall? = none) : Beside h (h.emit e) := note h he

theorem fire (h : Host) (reason : StopReason) : Beside h (h.fire reason).2 :=
  ⟨rfl, rfl, h.grows_fire reason, .fire h trivial, rfl⟩

theorem record (h : Host) {d : Deed} (hd : d.isEarly = false) : Beside h (h.record d) :=
  ⟨rfl, rfl, h.grows_record d, .of_same rfl rfl, h.early_record hd⟩

theorem register (h : Host) (a : Action) : Beside h (h.register a).2 := by
  have m : Move anyone h (h.register a).2 := .register h a
  refine ⟨m.coordinator, m.now, m.grows, ?_, m.early⟩
  cases hc : h.registry.closed with
  | true => rw [Host.register_of_closed hc]; exact .emit h rfl
  | false =>
    rw [Host.register_of_open hc]
    exact (Candid.emit { h with registry := _ } rfl).trans (.of_same rfl rfl)

theorem closeRegistry (h : Host) : Beside h h.closeRegistry.2 := by
  refine ⟨by rw [Host.closeRegistry_only], by rw [Host.closeRegistry_only], h.grows_closeRegistry, ?_,
    by rw [Host.closeRegistry_only]; rfl⟩
  cases hc : h.registry.closed with
  | true => rw [Host.closeRegistry_of_closed hc]; exact .emit h rfl
  | false => rw [Host.closeRegistry_of_open hc]; exact .of_same rfl rfl

theorem spawn (h : Host) (j : Job) : Beside h (h.spawn j).2 := ⟨rfl, rfl, h.grows_spawn j, .of_same rfl rfl, rfl⟩

theorem abort (h : Host) (t : TaskId) : Beside h (h.abort t) := ⟨rfl, rfl, h.grows_finish t _, .of_same rfl rfl, rfl⟩

theorem reportReady (h : Host) (t : TaskId) : Beside h (h.reportReady t) :=
  ⟨rfl, rfl, h.grows_reportReady t, .of_same rfl rfl, rfl⟩

theorem change (h : Host) (r : ResourceId) (f : Resource → Resource) : Beside h (h.modifyResource r f) :=
  ⟨rfl, rfl, h.grows_modifyResource r f, .of_same rfl rfl, rfl⟩

theorem tally (h : Host) (m : Metrics) : Beside h { h with metrics := m } :=
  ⟨rfl, rfl, .of_same rfl rfl rfl rfl List.prefix_rfl, .of_same rfl rfl, rfl⟩

theorem reportExits (h : Host) : Beside h (reportExits h).2 := by
  obtain ⟨trace, he⟩ := reportExits_eq h
  refine ⟨by rw [he], by rw [he], (leaves_reportExits h).grows, ?_, by rw [he]; rfl⟩
  refine (Candid.of_same rfl rfl : Candid anyReason h { h with exits := [] }).trans (.foldl (fun g e => ?_) _ _)
  split
  · exact .refl g
  · exact .refl g
  · exact .emit g rfl

end Beside

theorem Beside.permits : Permits Beside where
  refl := .refl
  trans := .trans
  note h _ hn := .note h hn
  record h _ hd := .record h hd
  fire := .fire
  register := .register
  closeRegistry := .closeRegistry
  spawn := .spawn
  abort := .abort
  ready := .reportReady
  change h r _ _ := .change h r _
  tally := .tally
  dialed _ _ := ⟨rfl, rfl, .of_same rfl rfl rfl rfl List.prefix_rfl, .of_same rfl rfl, rfl⟩

/-! ## Closes and drains -/

/-- A routine that leaves the coordinator's records alone, wherever it is run. -/
def Outside (r : Routine α) : Prop := r.Takes Beside

namespace Outside

theorem drain (d : Instant) : Outside (drain d) := Beside.permits.drain d

theorem closeEach (d : Instant) (ss : List Started) : Outside (closeEach d ss) := Beside.permits.closeEach d ss

end Outside

end ServiceHost.Lifecycle
