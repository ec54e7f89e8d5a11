import ServiceHost.Proofs.Lifecycle.Boot
import ServiceHost.Proofs.Lifecycle.Guest

/-! Routines by the steps that they take themselves, whatever the others do in between. Drains, scripts, starts and
closes take steps of a few kinds only, so a relation that has those kinds has all that they do. -/

namespace ServiceHost.Lifecycle

variable {α β : Type} {R : Host → Host → Prop}

/-- A call of the trigger, and whether it was told that its reason was accepted. -/
def Event.triggerCall? : Event → Option (StopReason × Bool)
  | .triggered reason => some (reason, true)
  | .triggerIgnored reason => some (reason, false)
  | _ => none

def Note.triggerCall? : Note → Option (StopReason × Bool)
  | .text _ => none
  | .event e => e.triggerCall?

namespace Routine

/-- Every step that the routine itself takes is one of `R`. -/
def Takes (R : Host → Host → Prop) : Routine α → Prop
  | .done _ => True
  | .panic _ => True
  | .step f next => (∀ h, R h (f h)) ∧ ∀ h, (next h).Takes R
  | .wait _ next => ∀ i, (next i).Takes R
  | .serve _ handle next => (∀ i h, R h (handle i h).1) ∧ ∀ i, (next i).Takes R

namespace Takes

protected theorem pure (a : α) : (pure a : Routine α).Takes R := trivial

theorem bind {r : Routine α} {k : α → Routine β} (hr : r.Takes R) (hk : ∀ a, (k a).Takes R) :
    (r >>= k).Takes R := by
  show (r.bind k).Takes R
  induction r with
  | done a => exact hk a
  | panic p => trivial
  | step f next ih => exact ⟨hr.1, fun h => ih h (hr.2 h)⟩
  | wait signals next ih => exact fun i => ih i (hr i)
  | serve signals handle next ih => exact ⟨hr.1, fun i => ih i (hr.2 i)⟩

theorem act {f : Host → α × Host} (hf : ∀ h, R h (f h).2) : (act f).Takes R := ⟨hf, fun _ => trivial⟩

theorem update {f : Host → Host} (hf : ∀ h, R h (f h)) : (update f).Takes R := ⟨hf, fun _ => trivial⟩

theorem waitAny (signals : List Signal) : (waitAny signals).Takes R := fun _ => trivial

theorem waitFor (x : Signal) : (waitFor x).Takes R := fun _ => trivial

section
variable (hrefl : ∀ h, R h h)
include hrefl

theorem read (f : Host → α) : (read f).Takes R := ⟨hrefl, fun _ => trivial⟩

theorem within (d : Instant) {r : Routine α} (hr : r.Takes R) : (r.within d).Takes R := by
  induction r with
  | done a => trivial
  | panic p => trivial
  | step f next ih => exact ⟨hr.1, fun h => ih h (hr.2 h)⟩
  | wait signals next ih =>
    intro i
    dsimp only
    split
    · exact ih i (hr i)
    · trivial
  | serve signals handle next ih =>
    refine ⟨fun i h => ?_, fun i => ?_⟩
    · dsimp only
      split
      · exact hr.1 i h
      · exact hrefl h
    · dsimp only
      split
      · exact ih i (hr.2 i)
      · trivial

end

theorem attempt {r : Routine α} (hr : r.Takes R) : r.attempt.Takes R := by
  induction r with
  | done a => trivial
  | panic p => trivial
  | step f next ih => exact ⟨hr.1, fun h => ih h (hr.2 h)⟩
  | wait signals next ih => exact fun i => ih i (hr i)
  | serve signals handle next ih => exact ⟨hr.1, fun i => ih i (hr.2 i)⟩

theorem mono {R' : Host → Host → Prop} (hR : ∀ {h h'}, R h h' → R' h h') {r : Routine α} (hr : r.Takes R) :
    r.Takes R' := by
  induction r with
  | done a => trivial
  | panic p => trivial
  | step f next ih => exact ⟨fun h => hR (hr.1 h), fun h => ih h (hr.2 h)⟩
  | wait signals next ih => exact fun i => ih i (hr i)
  | serve signals handle next ih => exact ⟨fun i h => hR (hr.1 i h), fun i => ih i (hr.2 i)⟩

/-- However the others behave, the steps of the routine are what they are. -/
theorem meets {E : Host → Host → Prop} {r : Routine α} (hr : r.Takes R) (h : Host) :
    r.Meets { rely := E, guar := R } (fun _ _ => True) h := by
  induction r generalizing h with
  | done a => exact ⟨trivial, trivial⟩
  | panic p => exact ⟨trivial, trivial⟩
  | step f next ih => exact ⟨trivial, hr.1 h, fun h' _ => ih h (hr.2 h) h'⟩
  | wait signals next ih => exact ⟨False.elim, fun h' _ => ⟨trivial, fun i _ => ih i (hr i) h'⟩⟩
  | serve signals handle next ih =>
    refine ⟨trivial, False.elim, fun _ => True, trivial, fun _ h' _ _ => ⟨trivial, fun i _ => ?_⟩⟩
    exact ⟨hr.1 i h', fun _ => trivial, fun _ h₂ _ => ih i (hr.2 i) h₂⟩

end Takes

end Routine

open Routine

/-- A relation that has every kind of step that a drain, a script, a start or the close of a resource takes. -/
structure Permits (R : Host → Host → Prop) : Prop where
  refl : ∀ h, R h h
  trans : ∀ {a b c}, R a b → R b c → R a c
  note : ∀ h {n : Note}, n.triggerCall? = none → R h (h.note n)
  record : ∀ (h : Host) {d : Deed}, d.isEarly = false → R h (h.record d)
  fire : ∀ h reason, R h (h.fire reason).2
  register : ∀ h a, R h (h.register a).2
  closeRegistry : ∀ h : Host, R h h.closeRegistry.2
  spawn : ∀ h job, R h (h.spawn job).2
  abort : ∀ h t, R h (h.abort t)
  ready : ∀ h t, R h (h.reportReady t)
  change : ∀ h r {f : Resource → Resource}, (∀ x, (f x).name = x.name) → R h (h.modifyResource r f)
  tally : ∀ (h : Host) (m : Metrics), R h { h with metrics := m }
  dialed : ∀ (h : Host) (n : Nat), R h { h with dials := n }

namespace Permits

variable (p : Permits R)
include p

theorem read (f : Host → α) : (read f).Takes R := Takes.read p.refl f

theorem within (d : Instant) {r : Routine α} (hr : r.Takes R) : (r.within d).Takes R := Takes.within p.refl d hr

theorem emit {e : Event} (he : e.triggerCall? = none) : (emit e).Takes R := Takes.update fun h => p.note h he

theorem say (who text : String) : (say who text).Takes R := Takes.update fun h => p.note h rfl

theorem sleep (ms : Nat) : (sleep ms).Takes R := Takes.bind (p.read _) fun _ => Takes.waitFor _

/-- An account of an action. -/
theorem account {m : Host → Metrics} {e : Event} (he : e.triggerCall? = none) :
    (Routine.update fun h => { h with metrics := m h }.emit e).Takes R :=
  Takes.update fun h => p.trans (p.tally h _) (p.note _ he)

/-! ## Drains -/

theorem skipActions (as : List Action) : (skipActions as).Takes R := by
  induction as with
  | nil => exact .pure []
  | cons a rest ih => exact Takes.bind (p.account rfl) fun _ => ih.bind fun _ => .pure _

theorem recordOutcome (a : Action) (t : TaskId) (o : Outcome) : (recordOutcome a t o).Takes R := by
  unfold Lifecycle.recordOutcome
  split <;> exact Takes.bind (p.account rfl) fun _ => .pure _

theorem runAction (a : Action) (d : Instant) : (runAction a d).Takes R := by
  unfold Lifecycle.runAction
  split
  · trivial
  · refine Takes.bind (Takes.act fun h => p.spawn h _) fun t => Takes.bind (Takes.waitAny _) fun i => ?_
    split
    · refine Takes.bind (p.read _) fun o => ?_
      split
      · exact p.recordOutcome a t _
      · exact .pure _
    · refine Takes.bind (Takes.update fun h => ?_) fun _ => .pure _
      exact p.trans (p.abort h t) (p.trans (p.tally _ _) (p.note _ rfl))

theorem runActions (d : Instant) (as : List Action) : (runActions d as).Takes R := by
  induction as with
  | nil => exact .pure []
  | cons a rest ih =>
    refine Takes.bind (p.read _) fun expired => ?_
    split
    · exact p.skipActions _
    · exact Takes.bind (p.runAction a d) fun _ => ih.bind fun _ => .pure _

theorem drain (d : Instant) : (drain d).Takes R := by
  refine Takes.bind (Takes.act p.closeRegistry) fun taken => ?_
  split
  · exact .pure _
  · refine Takes.bind (Takes.update fun h => p.note h rfl) fun _ => Takes.bind (p.runActions d _) fun fs => ?_
    exact Takes.bind (p.account rfl) fun _ => .pure _

/-! ## Scripts -/

theorem runInstruction (role : Role) (i : Instruction) : (runInstruction role i).Takes R := by
  cases i with
  | note text => exact p.say role.who text
  | ready =>
    simp only [Lifecycle.runInstruction]
    split
    · exact Takes.update fun h => p.ready h _
    · exact .pure ()
  | isReady =>
    simp only [Lifecycle.runInstruction]
    split
    · exact Takes.bind (p.read _) fun _ => p.say _ _
    · exact .pure ()
  | sleep ms => exact p.sleep ms
  | hang => exact fun _ => trivial
  | awaitClose =>
    simp only [Lifecycle.runInstruction]
    split
    · exact Takes.waitFor _
    · exact .pure ()
  | requestClose =>
    simp only [Lifecycle.runInstruction]
    split
    · exact Takes.update fun h => p.change h _ Resource.requestClose_name
    · exact .pure ()
  | trigger reason => exact Takes.bind (Takes.act fun h => p.fire h reason) fun _ => p.say _ _
  | register name body => exact Takes.bind (Takes.act fun h => p.register h _) fun _ => p.say _ _
  | remaining =>
    simp only [Lifecycle.runInstruction]
    split
    · exact Takes.update fun h => p.note h rfl
    · exact .pure ()
  | boundedSleep ms =>
    refine Takes.bind ?_ fun _ => p.say _ _
    simp only [Role.bounded]
    split
    · exact p.within _ (p.sleep ms)
    · exact Takes.bind (p.sleep ms) fun _ => .pure _
  | drain ms => exact Takes.bind (p.read _) fun d => Takes.bind (p.drain d) fun _ => p.say _ _
  | awaitTrigger =>
    refine Takes.bind ?_ fun _ => p.say _ _
    exact Takes.bind (Takes.waitFor _) fun _ => Takes.bind (p.read _) fun _ => .pure _
  | panic p => trivial
  | succeed => exact .pure ()
  | fail _ => exact .pure ()

theorem runScript (role : Role) (script : Script) : (runScript role script).Takes R := by
  induction script with
  | nil => exact .pure _
  | cons i rest ih =>
    unfold Lifecycle.runScript
    split
    · exact .pure _
    · exact .pure _
    · exact .pure _
    · next heq =>
      cases heq
      exact Takes.bind (p.runInstruction role i) fun _ => ih

/-! ## Starts and closes -/

theorem awaitAnswer (a : Net.Answer) : (awaitAnswer a).Takes R := by
  cases a with
  | after ms result => exact Takes.bind (p.sleep ms) fun _ => .pure _
  | never => exact fun _ => trivial

theorem dial (endpoint : String) (timeout : Duration) : (dial endpoint timeout).Takes R := by
  refine Takes.bind (Takes.act fun h => p.dialed h _) fun answer => Takes.bind (p.read _) fun d => ?_
  exact p.within d (p.awaitAnswer answer)

theorem connect (t : TaskId) (r : ResourceId) (o : Coordination.ClientOptions) (reason : String)
    (endpoints : List String) : (connect t r o reason endpoints).Takes R := by
  induction endpoints generalizing reason with
  | nil => exact .pure _
  | cons endpoint rest ih =>
    refine Takes.bind (p.emit rfl) fun _ => Takes.bind (p.dial endpoint _) fun answer => ?_
    split
    · refine Takes.bind (p.emit rfl) fun _ => ?_
      refine Takes.bind (Takes.update fun h => p.change h r (Resource.mapClient_name _)) fun _ => ?_
      exact Takes.bind (Takes.update fun h => p.ready h t) fun _ => .pure _
    · exact Takes.bind (p.emit rfl) fun _ => ih _
    · exact Takes.bind (p.emit rfl) fun _ => ih _

theorem serveRequests (t : TaskId) (r : ResourceId) (s : Server) : (serveRequests t r s).Takes R := by
  unfold Lifecycle.serveRequests
  split
  · exact .pure _
  · refine Takes.bind (p.read _) fun bound => ?_
    split
    · exact .pure _
    · refine Takes.bind (Takes.update fun h => p.change h r (Resource.mapServer_name _)) fun _ => ?_
      refine Takes.bind (p.emit rfl) fun _ => Takes.bind (Takes.update fun h => p.ready h t) fun _ => ?_
      refine Takes.bind (Takes.waitFor _) fun _ => ?_
      refine Takes.bind (Takes.update fun h => p.change h r (Resource.mapServer_name _)) fun _ => ?_
      exact Takes.bind (p.emit rfl) fun _ => .pure _

theorem callStart (t : TaskId) (r : ResourceId) : (callStart t r).Takes R := by
  refine Takes.bind (p.read _) fun x => ?_
  split
  · exact Takes.bind (p.runScript _ _) fun _ => .pure _
  · exact .pure _

theorem runStart (t : TaskId) (r : ResourceId) : (runStart t r).Takes R := by
  refine Takes.bind (p.read _) fun x => ?_
  split
  · exact Takes.bind (p.say _ _) fun _ => Takes.bind (p.runScript _ _) fun _ => .pure _
  · exact p.serveRequests t r _
  · exact p.connect t r _ _ _
  · exact .pure _

theorem closeServer (r : ResourceId) (s : Server) (d : Instant) : (closeServer r s d).Takes R := by
  refine Takes.bind (Takes.update fun h => p.change h r Resource.requestClose_name) fun _ => ?_
  split
  · exact .pure _
  · refine Takes.bind (p.emit rfl) fun _ => Takes.bind (p.within d (Takes.waitFor _)) fun o => ?_
    split
    · exact .pure _
    · exact Takes.bind (p.emit rfl) fun _ => .pure _

theorem disconnect (r : ResourceId) (c : Client) (d : Instant) : (disconnect r c d).Takes R := by
  unfold Lifecycle.disconnect
  split
  · exact .pure _
  · refine Takes.bind (Takes.update fun h => p.change h r (Resource.mapClient_name _)) fun _ => ?_
    refine Takes.bind (p.within d (Takes.bind (p.read _) fun a => p.awaitAnswer a)) fun o => ?_
    split
    · exact Takes.bind (p.emit rfl) fun _ => .pure _
    · exact .pure _
    · exact .pure _

theorem runClose (r : ResourceId) (d : Instant) : (runClose r d).Takes R := by
  refine Takes.bind (p.read _) fun x => ?_
  split
  · exact Takes.bind (p.say _ _) fun _ => Takes.bind (p.runScript _ _) fun _ => .pure _
  · exact p.closeServer r _ d
  · exact p.disconnect r _ d
  · exact .pure _

/-! ## Closes by the coordinator -/

theorem joinStart (s : Started) (name : String) (d : Instant) : (joinStart s name d).Takes R := by
  refine Takes.bind (Takes.waitAny _) fun i => ?_
  split
  · refine Takes.bind (p.read _) fun o => ?_
    split
    · exact Takes.bind (p.emit rfl) fun _ => .pure _
    · exact Takes.bind (p.emit rfl) fun _ => .pure _
    · exact .pure _
  · exact Takes.bind (Takes.update fun h => p.trans (p.abort h _) (p.note _ rfl)) fun _ => .pure _

theorem closeResource (s : Started) (d : Instant) : (closeResource s d).Takes R := by
  refine Takes.bind (p.read _) fun name => Takes.bind (p.read _) fun expired => ?_
  split
  · exact Takes.bind (Takes.update fun h => p.trans (p.abort h _) (p.note _ rfl)) fun _ => .pure _
  · refine Takes.bind (Takes.update fun h => p.trans (p.note h rfl) (p.record _ rfl)) fun _ => ?_
    refine Takes.bind (p.within d (p.runClose _ d)) fun result => ?_
    refine Takes.bind (Takes.update fun h => p.record h rfl) fun _ => ?_
    split
    · exact p.joinStart s name d
    · exact p.joinStart s name d
    · exact Takes.bind (Takes.update fun h => p.trans (p.note h rfl) (p.abort _ _)) fun _ => .pure _
    · exact Takes.bind (Takes.update fun h => p.trans (p.note h rfl) (p.abort _ _)) fun _ => .pure _

theorem closeEach (d : Instant) (ss : List Started) : (closeEach d ss).Takes R := by
  induction ss with
  | nil => exact .pure []
  | cons s rest ih =>
    refine Takes.bind (p.closeResource s d) fun _ => Takes.bind (Takes.update fun h => p.record h rfl) fun _ => ?_
    exact ih.bind fun _ => .pure _

end Permits

end ServiceHost.Lifecycle
