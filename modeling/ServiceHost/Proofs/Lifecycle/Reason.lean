import ServiceHost.Proofs.Lifecycle.Phases

/-! The reason to stop. The first call of the trigger gives it, and everyone who waits is told it. The
coordinator hears of the exits in the order of their arrival meanwhile and keeps the first failure. What
it tells is decided by the calls of the trigger and by the arrivals, not by the branches that a wait
picks, nor by waits that were dropped. -/

namespace ServiceHost.Lifecycle

open Relation Routine

variable {E : Host → Host → Prop} {C : Call → Prop} {G P : StopReason → Prop} {h h₀ h' g : Host}

/-! ## The first call -/

/-- Of these calls of a trigger exactly the first was told that its reason was accepted, and that reason
is recorded. -/
structure FirstWins (t : Trigger) (calls : List (StopReason × Bool)) : Prop where
  told : ∀ i call, calls[i]? = some call → (call.2 = true ↔ i = 0)
  reason : t.reason = calls.head?.map (·.1)

theorem Trigger.fire_accepts (t : Trigger) (reason : StopReason) :
    (t.fire reason).1 = true ↔ t.reason = none := by
  cases ht : t.reason <;> simp [fire, ht]

theorem Trigger.reason_fire (t : Trigger) (reason : StopReason) :
    (t.fire reason).2.reason = t.reason.or (some reason) := by
  cases ht : t.reason <;> simp [fire, ht]

namespace FirstWins

variable {t : Trigger} {calls : List (StopReason × Bool)}

theorem untriggered (f : FirstWins t calls) : t.reason = none ↔ calls = [] := by
  rw [f.reason, Option.map_eq_none_iff, List.head?_eq_none_iff]

theorem call (f : FirstWins t calls) (reason : StopReason) :
    FirstWins (t.fire reason).2 (calls ++ [(reason, (t.fire reason).1)]) where
  told i call hc := by
    rcases Nat.lt_trichotomy i calls.length with hlt | rfl | hgt
    · rw [List.getElem?_append_left hlt] at hc
      exact f.told i call hc
    · rw [List.getElem?_concat_length] at hc
      cases hc
      rw [Trigger.fire_accepts, f.untriggered, List.length_eq_zero_iff]
    · rw [List.getElem?_eq_none (by rw [List.length_append, List.length_singleton]; exact hgt)] at hc
      cases hc
  reason := by
    rw [Trigger.reason_fire, f.reason]
    cases calls <;> rfl

end FirstWins

namespace Candid

/-- What each call of the trigger keeps. By induction over the calls. -/
theorem keeps {K : Trigger → List (StopReason × Bool) → Prop} (c : Candid G h h')
    (hK : K h.trigger h.triggerCalls)
    (hcall : ∀ {t calls reason}, G reason → K t calls →
      K (t.fire reason).2 (calls ++ [(reason, (t.fire reason).1)])) : K h'.trigger h'.triggerCalls := by
  obtain ⟨reasons, hg, he⟩ := c
  suffices hlast : ∀ l : Trigger × List (StopReason × Bool), K l.1 l.2 →
      K (reasons.foldl Trigger.call l).1 (reasons.foldl Trigger.call l).2 by
    have hend := hlast (h.trigger, h.triggerCalls) hK
    rwa [← he] at hend
  clear he
  induction reasons with
  | nil => exact fun _ => id
  | cons reason rest ih =>
    intro l hl
    exact ih (fun r hmem => hg r (List.mem_cons_of_mem _ hmem)) _ (hcall (hg reason List.mem_cons_self) hl)

theorem firstWins (c : Candid G h h') (f : FirstWins h.trigger h.triggerCalls) :
    FirstWins h'.trigger h'.triggerCalls :=
  c.keeps f fun _ f => f.call _

/-- A reason that is recorded stays. -/
theorem stays (c : Candid G h h') {reason : StopReason} (hr : h.trigger.reason = some reason) :
    h'.trigger.reason = some reason := by
  refine c.keeps (K := fun t _ => t.reason = some reason) hr fun _ ht => ?_
  rw [Trigger.reason_fire, ht, Option.some_or]

/-- A reason that is recorded was recorded before or was given meanwhile. -/
theorem given (c : Candid G h h') {reason : StopReason} :
    h'.trigger.reason = some reason → h.trigger.reason = some reason ∨ G reason := by
  refine c.keeps (K := fun t _ => t.reason = some reason → h.trigger.reason = some reason ∨ G reason) .inl ?_
  intro t _ given hg ih hr
  rw [Trigger.reason_fire] at hr
  cases ht : t.reason with
  | none =>
    rw [ht, Option.none_or, Option.some.injEq] at hr
    exact .inr (hr ▸ hg)
  | some r =>
    rw [ht, Option.some_or, Option.some.injEq] at hr
    exact ih (ht.trans (congrArg some hr))

end Candid

/-- The reason is recorded, and the first call of the trigger gave it. -/
def Recorded (reason : StopReason) (h : Host) : Prop :=
  h.trigger.reason = some reason ∧ h.triggerCalls.head? = some (reason, true)

theorem FirstWins.of_reason (f : FirstWins h.trigger h.triggerCalls) {reason : StopReason}
    (hr : h.trigger.reason = some reason) : Recorded reason h := by
  refine ⟨hr, ?_⟩
  rw [f.reason] at hr
  obtain ⟨⟨r, told⟩, hc, rfl⟩ := Option.map_eq_some_iff.1 hr
  have htold : told = true := (f.told 0 _ (List.head?_eq_getElem? ▸ hc)).2 rfl
  rw [hc, htold]

/-! ## The steps -/

theorem BootStep.candid (m : BootStep h h') : Candid G h h' := by
  cases m with
  | look => exact .refl h
  | tell he => exact .emit h he
  | listen =>
    unfold Lifecycle.listen
    split
    · exact .of_same rfl rfl
    · exact .refl h
  | takePending _ => exact .of_same rfl rfl
  | launch r _ => exact .of_same rfl rfl
  | judge o _ he =>
    exact (Candid.of_same rfl rfl : Candid G h { h with metrics := h.metrics.recordStart o }).trans (.emit _ he)
  | giveUp t o _ he =>
    have c : Candid G h { h.abort t with metrics := (h.abort t).metrics.recordStart o } := .of_same rfl rfl
    exact c.trans (.emit _ he)
  | hold s _ => exact .of_same rfl rfl
  | breakOff e left _ => exact (Candid.emit h (e := .bootAborted e left) rfl).trans (.of_same rfl rfl)
  | run count _ =>
    exact (Candid.of_same rfl rfl : Candid G h (h.enter .running)).trans
      ((Candid.emit _ (e := .bootDone count) rfl).trans (.of_same rfl rfl))

theorem WaitStep.candid (m : WaitStep h h') : Candid anyReason h h' := by
  cases m with
  | look => exact .refl h
  | listen => exact (BootStep.listen h).candid
  | hear =>
    unfold Host.hearExit
    split
    · exact .refl h
    · exact (Candid.of_same rfl rfl : Candid anyReason h { h with exits := _ }).trans (.onExit _ _)
  | hearAll =>
    refine (Candid.of_same rfl rfl : Candid anyReason h { h with exits := [] }).trans ?_
    exact (Candid.foldl Candid.onExit h.exits _).trans (.of_same rfl rfl)

theorem candid_beginShutdown (h : Host) {reason : StopReason} (hg : G reason) :
    Candid G h (beginShutdown reason h).2 :=
  (Candid.fire h hg).trans ((Candid.of_same rfl rfl :
    Candid G (h.fire reason).2 (((h.fire reason).2.enter .shuttingDown).record .stopping)).trans (.emit _ rfl))

theorem candid_endShutdown (h : Host) (failures : Failures) : Candid G h (endShutdown failures h) := by
  refine (Candid.of_same rfl rfl : Candid G h (h.enter .stopped)).trans (.trans (.emit _ ?_) (.of_same rfl rfl))
  split <;> rfl

theorem StopStep.candid (m : StopStep G h h') : Candid anyReason h h' := by
  cases m with
  | look => exact .refl h
  | tell he => exact .emit h he
  | begin _ _ => exact candid_beginShutdown h trivial
  | beside _ b => exact b.candid
  | takeStarted drained _ _ => exact .of_same rfl rfl
  | finish failures _ _ _ => exact candid_endShutdown h failures

/-- A shutdown gives the trigger no reason but its own. -/
theorem StopStep.given (m : StopStep G h h') (s : Sound h) {reason : StopReason} :
    h'.trigger.reason = some reason → h.trigger.reason = some reason ∨ G reason := by
  cases m with
  | look => exact .inl
  | tell he => exact .inl
  | begin hg _ => exact (candid_beginShutdown h hg).given
  | beside hp b =>
    obtain ⟨first, hf⟩ := Option.isSome_iff_exists.1 (s.triggered (.inl hp))
    intro hr
    rw [hf, ← hr, b.candid.stays hf]
    exact .inl rfl
  | takeStarted drained _ _ => exact .inl
  | finish failures _ _ _ => exact (candid_endShutdown h failures).given

theorem Step.candid (m : Step G h h') : Candid anyReason h h' := by
  cases m with
  | look => exact .refl h
  | tell he => exact .emit h he
  | add r => exact (Candid.emit h (e := .resourceAdded (h.resourceName r)) rfl).trans (.of_same rfl rfl)
  | fire _ => exact .fire h trivial
  | boot m => exact m.candid
  | wait m => exact m.candid
  | stop m => exact m.candid

/-! ## Hearing of exits -/

/-- From `h` to `h'` the coordinator heard of the exits in the queue, and of those that arrived since,
from the front, and kept the first failure. -/
def Harks (h h' : Host) : Prop :=
  ∃ es heard, h'.arrivals = h.arrivals ++ es ∧ h.exits ++ es = heard ++ h'.exits ∧
    h'.coordinator.failure = h.coordinator.failure.or (heard.findSome? Exit.failure?)

namespace Harks

theorem of_queued (hexits : ∃ es, h'.exits = h.exits ++ es ∧ h'.arrivals = h.arrivals ++ es)
    (hfailure : h'.coordinator.failure = h.coordinator.failure) : Harks h h' := by
  obtain ⟨es, he, ha⟩ := hexits
  exact ⟨es, [], ha, he.symm, by rw [hfailure, List.findSome?_nil, Option.or_none]⟩

theorem of_same (hexits : h'.exits = h.exits) (harrivals : h'.arrivals = h.arrivals)
    (hfailure : h'.coordinator.failure = h.coordinator.failure) : Harks h h' :=
  of_queued ⟨[], by rw [hexits, List.append_nil], by rw [harrivals, List.append_nil]⟩ hfailure

theorem refl (h : Host) : Harks h h := of_same rfl rfl rfl

theorem trans (k : Harks h g) (k' : Harks g h') : Harks h h' := by
  obtain ⟨es, heard, ha, he, hf⟩ := k
  obtain ⟨es', heard', ha', he', hf'⟩ := k'
  refine ⟨es ++ es', heard ++ heard', by rw [ha', ha, List.append_assoc], ?_, ?_⟩
  · rw [← List.append_assoc, he, List.append_assoc, he', List.append_assoc]
  · rw [hf', hf, Option.or_assoc, List.findSome?_append]

theorem of_exits {es rest : List Exit} (he : h.exits = es ++ rest) :
    Harks h (es.foldl Host.onExit { h with exits := rest }) := by
  obtain ⟨t, tr, -, heq⟩ := Host.foldl_onExit_eq es { h with exits := rest }
  rw [heq]
  exact ⟨[], es, (List.append_nil _).symm, (List.append_nil _).trans he, rfl⟩

theorem of_move (m : Move anyone h h') : Harks h h' := by
  have m' : Peers anyone True h h' := ⟨m, fun _ => .inl trivial⟩
  exact of_queued m'.keeps.exits m'.keeps.failure

theorem of_tick {signals : List Signal} (m : Tick signals h h') : Harks h h' := by
  obtain ⟨t, -, -, rfl⟩ := m
  exact of_same rfl rfl rfl

theorem attentive (k : Harks h h') (a : Attentive h) : Attentive h' := by
  obtain ⟨es, heard, ha, he, hf⟩ := k
  obtain ⟨before, hb, hf'⟩ := a
  refine ⟨before ++ heard, ?_, by rw [hf, hf', List.findSome?_append]⟩
  rw [ha, hb, List.append_assoc, he, List.append_assoc]

/-- With an empty queue the failure is known without a look at what was heard of when. -/
theorem of_emptied (k : Harks h h') (he : h'.exits = []) : ∃ es, h'.arrivals = h.arrivals ++ es ∧
    h'.coordinator.failure = h.coordinator.failure.or ((h.exits ++ es).findSome? Exit.failure?) := by
  obtain ⟨es, heard, ha, hq, hf⟩ := k
  exact ⟨es, ha, by rw [hq, he, List.append_nil, hf]⟩

end Harks

theorem Attentive.of_emptied (a : Attentive h) (he : h.exits = []) :
    h.coordinator.failure = h.arrivals.findSome? Exit.failure? := by
  obtain ⟨heard, ha, hf⟩ := a
  rw [ha, he, List.append_nil, hf]

theorem BootStep.harks (m : BootStep h h') : Harks h h' := by
  cases m with
  | look => exact .refl h
  | tell _ => exact .of_same rfl rfl rfl
  | listen =>
    have k := keeps_listen (D := nobody) (P := True) h
    exact .of_queued k.exits k.failure
  | launch r _ => exact .of_same rfl (Host.arrivals_record_own _ rfl) rfl
  | hold s _ => exact .of_same rfl (Host.arrivals_record_own _ rfl) rfl
  | breakOff e left _ => exact .of_same rfl (Host.arrivals_record_own _ rfl) rfl
  | run count _ => exact .of_same rfl (Host.arrivals_record_own _ rfl) rfl
  | takePending _ | judge _ _ _ | giveUp _ _ _ _ => exact .of_same rfl rfl rfl

theorem WaitStep.harks (m : WaitStep h h') : Harks h h' := by
  cases m with
  | look => exact .refl h
  | listen => exact (BootStep.listen h).harks
  | hear =>
    unfold Host.hearExit
    split
    · exact .refl h
    · next e rest he =>
      have hfirst : h.exits = [e] ++ rest := he
      exact .of_exits hfirst
  | hearAll =>
    have k : Harks h h.hearExits := .of_exits (List.append_nil _).symm
    exact k.trans (.of_same rfl (Host.arrivals_record_own _ rfl) rfl)

theorem WaitStep.phase (m : WaitStep h h') : h'.coordinator.phase = h.coordinator.phase := by
  cases m with
  | look => rfl
  | listen => exact (leaves_listen h).phase
  | hear => exact (hears_hearExit (D := nobody) (P := True) h).leaves.phase
  | hearAll => exact (hears_hearExits (D := nobody) (P := True) h).leaves.phase

/-! ## The first failure -/

/-- A failure that is recorded as the reason to stop is the first failure. -/
def Blamed (h : Host) : Prop :=
  ∀ name, h.trigger.reason = some (.failed name) → ∃ e, h.coordinator.failure = some (name, e)

theorem Blamed.onExit (b : Blamed h) (a : Alerted h) (e : Exit) : Blamed (h.onExit e) := by
  intro name hr
  rw [h.onExit_trigger] at hr
  rw [h.onExit_failure]
  cases ht : h.trigger.reason with
  | some reason =>
    rw [ht, Option.some_or] at hr
    obtain ⟨e', he'⟩ := b name (ht.trans hr)
    exact ⟨e', by rw [he', Option.some_or]⟩
  | none =>
    have hnone : h.coordinator.failure = none := by
      rw [← Option.not_isSome_iff_eq_none]
      intro hf
      have hs := a hf
      rw [ht] at hs
      cases hs
    rw [ht, Option.none_or, Option.map_eq_some_iff] at hr
    obtain ⟨⟨n, err⟩, hf, hn⟩ := hr
    cases hn
    exact ⟨err, by rw [hnone, hf, Option.none_or]⟩

/-- By induction over the exits. -/
theorem Blamed.foldl_onExit (es : List Exit) (b : Blamed h) (a : Alerted h) :
    Blamed (es.foldl Host.onExit h) := by
  induction es generalizing h with
  | nil => exact b
  | cons e rest ih => exact ih (b.onExit a e) (a.onExit e)

/-- What the calls of the trigger, the reason and the failures say of each other at every moment, when the
reasons given from outside are in `P`. Only a shutdown takes exits without hearing of them. -/
structure Alert (P : StopReason → Prop) (h : Host) : Prop where
  first : FirstWins h.trigger h.triggerCalls
  alerted : Alerted h
  attentive : h.IsUp → Attentive h
  blamed : (∀ name, ¬ P (.failed name)) → Blamed h

namespace Alert

/-- A step that hears of no exit. -/
theorem keep (a : Alert P h) (c : Candid anyReason h h')
    (hgiven : ∀ {reason}, h'.trigger.reason = some reason → h.trigger.reason = some reason ∨ P reason)
    (hfailure : h'.coordinator.failure = h.coordinator.failure) (hup : h'.IsUp → h.IsUp ∧ Harks h h') :
    Alert P h' where
  first := c.firstWins a.first
  alerted hf := by
    obtain ⟨reason, hr⟩ := Option.isSome_iff_exists.1 (a.alerted (hfailure ▸ hf))
    rw [c.stays hr]
    rfl
  attentive hu := (hup hu).2.attentive (a.attentive (hup hu).1)
  blamed hP name hr := by
    rw [hfailure]
    exact a.blamed hP name ((hgiven hr).resolve_right (hP name))

theorem boot (a : Alert P h) (m : BootStep h h') : Alert P h' := by
  have hup : h'.IsUp → h.IsUp := by
    cases m with
    | listen =>
      unfold Host.IsUp
      rw [(leaves_listen h).phase]
      exact id
    | run count hu => exact fun _ => .inl hu.1
    | _ => exact id
  have hfailure : h'.coordinator.failure = h.coordinator.failure := by
    cases m with
    | listen => exact (keeps_listen (D := nobody) (P := True) h).failure
    | _ => rfl
  exact a.keep m.candid (fun hr => (m.candid.given (G := P) hr)) hfailure fun hu => ⟨hup hu, m.harks⟩

/-- The first exits in the queue are heard of. -/
theorem hear (a : Alert P h) {es rest : List Exit} (he : h.exits = es ++ rest) :
    Alert P (es.foldl Host.onExit { h with exits := rest }) where
  first := by
    have c : Candid anyReason h { h with exits := rest } := .of_same rfl rfl
    exact (c.trans (.foldl Candid.onExit es _)).firstWins a.first
  alerted := by
    have hfold : ∀ {k}, Alerted k → Alerted (es.foldl Host.onExit k) := by
      clear he
      induction es with
      | nil => exact id
      | cons e rest ih => exact fun ha => ih (ha.onExit e)
    exact hfold (k := { h with exits := rest }) a.alerted
  attentive hu := by
    have hup : h.IsUp := by
      obtain ⟨_, _, -, heq⟩ := Host.foldl_onExit_eq es { h with exits := rest }
      rwa [heq] at hu
    exact (Harks.of_exits he).attentive (a.attentive hup)
  blamed hP := Blamed.foldl_onExit (h := { h with exits := rest }) es (a.blamed hP) a.alerted

theorem wait (a : Alert P h) (m : WaitStep h h') : Alert P h' := by
  cases m with
  | look => exact a
  | listen => exact a.boot (.listen h)
  | hear =>
    unfold Host.hearExit
    split
    · exact a
    · next e rest he =>
      have hfirst : h.exits = [e] ++ rest := he
      exact a.hear hfirst
  | hearAll =>
    have a' : Alert P h.hearExits := a.hear (List.append_nil h.exits).symm
    exact a'.keep (.of_same rfl rfl) .inl rfl fun hu => ⟨hu, .of_same rfl (Host.arrivals_record_own _ rfl) rfl⟩

/-- Once a shutdown began nothing is said of the queue, and the reason is recorded. -/
theorem stop (a : Alert P h) (hG : ∀ {reason}, G reason → P reason) (s : Sound h) (m : StopStep G h h') :
    Alert P h' := by
  have hgiven : ∀ {reason}, h'.trigger.reason = some reason → h.trigger.reason = some reason ∨ P reason :=
    fun hr => (m.given s hr).imp_right hG
  cases m with
  | look => exact a
  | tell he => exact a.keep (.emit h he) hgiven rfl fun hu => ⟨hu, .of_same rfl rfl rfl⟩
  | begin hg hup =>
    exact a.keep (candid_beginShutdown h trivial) hgiven rfl fun hu => absurd hu (Host.not_isUp (.inl rfl))
  | beside hp b =>
    refine a.keep b.candid hgiven (by rw [b.coordinator]) fun hu => absurd hu (Host.not_isUp (.inl ?_))
    rw [b.coordinator, hp]
  | takeStarted drained hp _ =>
    exact a.keep (.of_same rfl rfl) hgiven rfl fun hu => absurd hu (Host.not_isUp (.inl hp))
  | finish failures _ _ _ =>
    exact a.keep (candid_endShutdown h failures) hgiven rfl fun hu => absurd hu (Host.not_isUp (.inr rfl))

theorem step (a : Alert P h) (hG : ∀ {reason}, G reason → P reason) (s : Sound h) (m : Step G h h') :
    Alert P h' := by
  cases m with
  | look => exact a
  | tell he => exact a.keep (.emit h he) .inl rfl fun hu => ⟨hu, .of_same rfl rfl rfl⟩
  | add r =>
    have c : Candid anyReason h (addResource r h) := Step.candid (G := G) (.add h r)
    exact a.keep c .inl rfl fun hu => ⟨hu, .of_same rfl (Host.arrivals_record_own _ rfl) rfl⟩
  | fire hg =>
    refine a.keep (.fire h trivial) (fun hr => ?_) rfl fun hu => ⟨hu, .of_same rfl rfl rfl⟩
    exact ((Candid.fire h hg).given hr).imp_right hG
  | boot m => exact a.boot m
  | wait m => exact a.wait m
  | stop m => exact a.stop hG s m

end Alert

/-! ## The others -/

/-- The others move, and the reasons that they give the trigger are in `P`. -/
def Callers (P : StopReason → Prop) (h h' : Host) : Prop := Move anyone h h' ∧ Candid P h h'

theorem Alert.callers (a : Alert P h) (m : Callers P h h') : Alert P h' := by
  refine a.keep (m.2.mono fun _ => trivial) m.2.given (by rw [m.1.coordinator]) fun hu => ⟨?_, .of_move m.1⟩
  rwa [Host.IsUp, m.1.coordinator] at hu

theorem Alert.tick (a : Alert P h) {signals : List Signal} (m : Tick signals h h') : Alert P h' := by
  have k : Harks h h' := .of_tick m
  obtain ⟨t, -, -, rfl⟩ := m
  exact a.keep (.of_same rfl rfl) .inl rfl fun hu => ⟨hu, k⟩

/-- The trigger was not called yet. -/
def Host.Uncalled (h : Host) : Prop := h.trigger.reason = none ∧ h.triggerCalls = []

theorem Host.Fresh.alert (f : h.Fresh) (hu : h.Uncalled) : Alert P h where
  first := by
    rw [hu.2]
    exact ⟨nofun, hu.1⟩
  alerted hf := by
    rw [f.coordinator] at hf
    cases hf
  attentive _ := ⟨[], by rw [Host.arrivals, Host.deeds, f.history, f.exits]; rfl, by rw [f.coordinator]; rfl⟩
  blamed _ name hr := by
    rw [hu.1] at hr
    cases hr

/-- Whatever is called, as long as the reasons given are in `P`. -/
theorem Later.alert (hC : ∀ c, C c → ∀ reason, c.Gives reason → P reason) (l : Later (Callers P) C h h')
    (s : Sound h) (a : Alert P h) : Alert P h' :=
  (l.tracks (R := fun a b => Sound a ∧ Alert P a → Sound b ∧ Alert P b) And.left (fun _ => id)
    (fun f f' q => f' (f q)) (fun m q => ⟨(q.1.standing (.of_move m.1)).1, q.2.callers m⟩)
    (fun m q => ⟨(q.1.standing (.of_tick m)).1, q.2.tick m⟩)
    (fun hc m q => ⟨(m.sound q.1).1, q.2.step (hC _ hc _) q.1 m⟩) ⟨s, a⟩).2

/-! ## Waiting for the reason -/

/-- Nothing stands in for the reason, which is never missing: whoever waits is told that of the first
call. -/
theorem meets_awaitTrigger (f : FirstWins h.trigger h.triggerCalls) (fallback : StopReason) :
    (awaitTrigger fallback).Meets { rely := Candid anyReason, panics := fun _ => False } Recorded h := by
  have hothers : ∀ {a b}, Others (Candid anyReason) a b → Candid anyReason a b := fun {a _} o =>
    o.preserve (fun m c => c.trans m) (.refl a)
  have htick : ∀ {signals a b}, Tick signals a b → Candid anyReason a b := by
    rintro signals a _ ⟨t, -, -, rfl⟩
    exact .of_same rfl rfl
  have hwaits : ∀ {signals a b}, Waits (Candid anyReason) signals a b → Candid anyReason a b := fun {_ a _} w =>
    w.preserve (fun m c => c.trans m) (fun m c => c.trans (htick m)) (.refl a)
  refine ⟨False.elim, fun k w => ⟨trivial, fun i hi => ?_⟩⟩
  obtain ⟨x, hx, hholds, -⟩ := hi
  obtain rfl : x = .triggered := List.mem_singleton.1 (List.mem_of_getElem? hx)
  obtain ⟨reason, hr⟩ := Option.isSome_iff_exists.1 (show k.trigger.reason.isSome from hholds)
  refine meets_read.2 ⟨trivial, trivial, fun h' o => ⟨trivial, ?_⟩⟩
  rw [hr, Option.getD_some]
  exact (((hwaits w).trans (hothers o)).firstWins f).of_reason ((hothers o).stays hr)

theorem finishes_awaitTrigger {reason : StopReason} (hr : h.trigger.reason = some reason)
    (fallback : StopReason) :
    Finishes (fun told _ => told = reason) (awaitTrigger fallback) h := by
  have ht : (Signal.triggered).holds h = true := by simp [Signal.holds, Trigger.isTriggered, hr]
  refine .wait (exists_picks ⟨_, List.mem_singleton.2 rfl, ht⟩) fun _ _ => .step (.done ?_)
  show h.trigger.reason.getD fallback = reason
  rw [hr, Option.getD_some]

/-- What a wait of the coordinator that began in `h` has brought about in `k`, when it tells the reason. -/
structure Hearkened (P : StopReason → Prop) (h : Host) (reason : StopReason) (k : Host) : Prop where
  told : Recorded reason k
  /-- Nothing is queued any more. -/
  exits : k.exits = []
  /-- The failure is what it was before, or else the first among the exits that were queued or arrived
  since. -/
  failure : ∃ es, k.arrivals = h.arrivals ++ es ∧
    k.coordinator.failure = h.coordinator.failure.or ((h.exits ++ es).findSome? Exit.failure?)
  /-- Before a shutdown it is the first failure of all. -/
  firstFailure : h.IsUp → k.coordinator.failure = k.arrivals.findSome? Exit.failure?
  /-- When nobody else gives the failure of a resource as a reason, the reason is that failure. -/
  blamed : (∀ name, ¬ P (.failed name)) → ∀ name, reason = .failed name →
    ∃ e, k.coordinator.failure = some (name, e)

theorem Alert.meets_awaitStop (a : Alert P h) :
    awaitStop.Meets { rely := Callers P, guar := WaitStep, timely := True, panics := fun _ => False }
      (fun reason h' => ∃ k, Hearkened P h reason k ∧ Others (Callers P) k h') h := by
  have ends := meets_awaitStop_ends (E := Callers P) (h := h)
    (I := fun k => Alert P k ∧ Harks h k ∧ k.coordinator.phase = h.coordinator.phase) (fun m => m.1.grows)
    (fun m ⟨a, k, hp⟩ => ⟨a.callers m, k.trans (.of_move m.1), by rw [m.1.coordinator, hp]⟩)
    (fun m ⟨a, k, hp⟩ => ⟨a.tick m, k.trans (.of_tick m), by rw [(Standing.of_tick m).coordinator, hp]⟩)
    (fun m ⟨a, k, hp⟩ => ⟨a.wait m, k.trans m.harks, m.phase.trans hp⟩) ⟨a, .refl h, rfl⟩
  refine ends.mono ?_
  rintro reason h' - ⟨k, ⟨a, hk, hp⟩, hr, o⟩
  have m : WaitStep k (k.hearExits.record .waited) := .hearAll k
  have a' : Alert P (k.hearExits.record .waited) := a.wait m
  have hr' : (k.hearExits.record .waited).trigger.reason = some reason := m.grows.trigger reason hr
  have hempty : (k.hearExits.record .waited).exits = [] := k.exits_hearExits
  refine ⟨_, ⟨a'.first.of_reason hr', hempty, (hk.trans m.harks).of_emptied hempty, fun hu => ?_, ?_⟩, o⟩
  · refine (a'.attentive ?_).of_emptied hempty
    rw [Host.IsUp, m.phase, hp]
    exact hu
  · rintro hP name rfl
    exact a'.blamed hP name hr'

/-- Nothing was triggered and no exit told of a failure, however many there were. -/
def Host.Calm (h : Host) : Prop := h.trigger.reason = none ∧ ∀ e ∈ h.arrivals, e.failure? = none

/-- Exits that tell of no failure trigger nothing. -/
theorem Host.reason_foldl_onExit {es : List Exit} (hes : ∀ e ∈ es, e.failure? = none) (h : Host) :
    (es.foldl onExit h).trigger.reason = h.trigger.reason := by
  rw [h.foldl_onExit_trigger, List.findSome?_eq_none_iff.2 hes, Option.map_none, Option.or_none]

theorem Host.Calm.wait (c : h.Calm) (a : Attentive h) (m : WaitStep h h') : h'.Calm := by
  have hqueued : ∀ e ∈ h.exits, e.failure? = none := fun e he => by
    obtain ⟨heard, ha, -⟩ := a
    exact c.2 e (ha ▸ List.mem_append_right _ he)
  have hheard : ∀ es rest : List Exit, (∀ e ∈ es, e.failure? = none) →
      (es.foldl Host.onExit { h with exits := rest }).Calm := by
    intro es rest hes
    refine ⟨(Host.reason_foldl_onExit hes _).trans c.1, ?_⟩
    obtain ⟨_, _, -, heq⟩ := Host.foldl_onExit_eq es { h with exits := rest }
    rw [heq]
    exact c.2
  cases m with
  | look => exact c
  | listen =>
    unfold listen
    split <;> exact c
  | hear =>
    unfold Host.hearExit
    split
    · exact c
    · next e rest he =>
      have hfirst : ∀ x ∈ [e], x.failure? = none := fun x hx =>
        hqueued x (he ▸ List.mem_singleton.1 hx ▸ List.mem_cons_self)
      exact hheard [e] rest hfirst
  | hearAll =>
    obtain ⟨hr, ha⟩ := hheard h.exits [] hqueued
    refine ⟨hr, fun e he => ha e ?_⟩
    rwa [Host.arrivals_record_own _ rfl] at he

/-- As long as nothing is triggered and no exit tells of a failure, a wait does not end. -/
theorem meets_awaitStop_calm (hup : h.IsUp) (a : Alert P h) (c : h.Calm) :
    awaitStop.Meets { rely := fun g g' => Callers P g g' ∧ g'.Calm } (fun _ _ => False) h := by
  have ends := meets_awaitStop_ends (E := fun g g' => Callers P g g' ∧ g'.Calm) (h := h)
    (I := fun k => k.Calm ∧ Attentive k) (fun m => m.1.1.grows)
    (fun m q => ⟨m.2, (Harks.of_move m.1.1).attentive q.2⟩)
    (fun m q => ⟨by obtain ⟨_, -, -, rfl⟩ := m; exact q.1, (Harks.of_tick m).attentive q.2⟩)
    (fun m q => ⟨q.1.wait q.2 m, m.harks.attentive q.2⟩) ⟨c, a.attentive hup⟩
  refine (ends.mono ?_).weaken id (fun _ _ => trivial) id False.elim id fun _ => False.elim
  rintro reason h' - ⟨k, ⟨⟨hnone, -⟩, -⟩, hr, -⟩
  rw [hr] at hnone
  cases hnone

/-- All that there was to hear of in `h` was heard of in `k`. -/
structure HeardOut (h : Host) (reason : StopReason) (k : Host) : Prop where
  reason : h.reasonHeard = some reason
  failure : k.coordinator.failure = h.failureHeard
  exits : k.exits = []

theorem finishes_awaitStop_heardOut (hr : h.reasonHeard.isSome) : Finishes (HeardOut h) awaitStop h := by
  have ends := meets_awaitStop_ends (E := fun _ _ => False) (h := h) (I := fun _ => True) False.elim
    (fun m _ => m.elim) (fun _ => id) (fun _ => id) trivial
  refine ((finishes_awaitStop hr).and_meets ends).mono ?_
  rintro reason h' ⟨⟨hreason, hfailure⟩, k, -, -, o⟩
  refine ⟨hreason, hfailure, ?_⟩
  obtain rfl | ⟨_, m, -⟩ := o.cases_head
  · exact k.exits_hearExits
  · exact m.elim

/-! ## Waits that were dropped -/

/-- What a wait of the coordinator is like that stands in `g`. -/
structure Pending (E : Host → Host → Prop) (rest : Routine StopReason) (g : Host) : Prop where
  /-- It can pick a branch, and it has a choice only when the reason is recorded. -/
  picks : g.reasonHeard.isSome → ∃ i, Picks rest.signals g i
  choice : ∀ i j, Picks rest.signals g i → Picks rest.signals g j → i ≠ j → g.trigger.reason.isSome
  finishes : g.reasonHeard.isSome → Finishes (HeardOut g) rest g
  /-- If it is dropped, a new wait ends as it would have. -/
  again : ∀ reason h', Run E awaitStop g (.returned reason) h' ↔ Run E rest g (.returned reason) h'

/-- The listener was started, if one is asked for. -/
def Listening (h : Host) : Prop := (h.coordinator.config.handleSignals && h.coordinator.listener.isNone) = false

theorem Listening.listen (l : Listening h) : listen h = h := by
  rw [Lifecycle.listen, if_neg]
  rw [l]
  exact Bool.false_ne_true

theorem listening_listen (h : Host) : Listening (listen h) := by
  unfold Lifecycle.listen
  split
  · exact Bool.and_false _
  · next hl => exact Bool.eq_false_iff.2 hl

theorem WaitStep.listening (m : WaitStep h h') (l : Listening h) : Listening h' := by
  have hfold : ∀ es rest : List Exit, Listening (es.foldl Host.onExit { h with exits := rest }) := by
    intro es rest
    obtain ⟨_, _, -, heq⟩ := Host.foldl_onExit_eq es { h with exits := rest }
    rw [heq]
    exact l
  cases m with
  | look => exact l
  | listen => exact listening_listen h
  | hear =>
    unfold Host.hearExit
    split
    · exact l
    · next e rest _ => exact hfold [e] rest
  | hearAll => exact hfold h.exits []

/-- A coordinator that stands by has its listener. -/
theorem listening_of_run (hE : ∀ {a b}, E a b → Move anyone a b) (hr : Run E awaitStop h (.going standBy) g) :
    Listening g := by
  have hkept : ∀ {a b}, Standing a b → Listening a → Listening b := fun m l => by
    rw [Listening, m.coordinator]
    exact l
  obtain ⟨k, o, hr⟩ : ∃ k, Others E (listen h) k ∧ Run E standBy k (.going standBy) g := by
    cases hr with
    | step o hr => exact ⟨_, o, hr⟩
  have m := (Takes.meets (E := E) (takes_awaitStop.2 h) k).tracks (R := fun a b => Listening a → Listening b)
    (fun f f' l => f' (f l)) (fun m => hkept (.of_move (hE m))) WaitStep.listening
    (fun m => hkept (.of_tick m)) id
  exact (m.of_run hr).1.2 (hkept (Others.standing hE o) (listening_listen h))

theorem Pending.of_run (hE : ∀ {a b}, E a b → Move anyone a b) {rest : Routine StopReason}
    (hr : Run E awaitStop h (.going rest) g) (hs : rest.signals ≠ []) : Pending E rest g := by
  obtain rfl := eq_standBy hr hs
  have hl : listen g = g := (listening_of_run hE hr).listen
  refine ⟨exists_picks_standBy, fun i j hi hj hne => ?_, fun hheard => ?_,
    fun reason h' => ⟨fun hrun => ?_, fun hrun => ?_⟩⟩
  · rcases picks_standBy hi with ⟨rfl, ht⟩ | ⟨rfl, -⟩
    · exact ht
    · rcases picks_standBy hj with ⟨rfl, ht⟩ | ⟨rfl, -⟩
      · exact ht
      · exact absurd rfl hne
  · have hf := finishes_awaitStop_heardOut hheard
    rw [awaitStop_eq] at hf
    cases hf with
    | step hf =>
      rw [hl] at hf
      exact hf
  · rw [awaitStop_eq] at hrun
    cases hrun with
    | step o hrun =>
      rw [hl] at o
      exact Run.trans (.serving (Others.waits o)) hrun
  · rw [awaitStop_eq]
    have ho : Others E (listen g) g := by rw [hl]
    exact .step ho hrun

/-! ## The reason is one -/

/-- What those who call the trigger in `h`, and those who wait for it, are told. The reasons given by
others are in `P`. -/
structure OneReason (P : StopReason → Prop) (h : Host) : Prop where
  first : FirstWins h.trigger h.triggerCalls
  /-- The next call is told that its reason is accepted only if it is the first. -/
  accepts : ∀ reason, (h.fire reason).1 = true ↔ h.triggerCalls = []
  /-- A reason that is recorded stays, whatever is called. -/
  stays : ∀ reason, h.trigger.reason = some reason →
    Recorded reason h ∧ ∀ C h', Later (Callers P) C h h' → h'.trigger.reason = some reason
  waiters : ∀ fallback,
    (awaitTrigger fallback).Meets { rely := Candid anyReason, panics := fun _ => False } Recorded h ∧
      ∀ reason, h.trigger.reason = some reason →
        Finishes (fun told _ => told = reason) (awaitTrigger fallback) h
  waits : awaitStop.Meets { rely := Callers P, timely := True, panics := fun _ => False }
    (fun reason h' => ∃ k, Hearkened P h reason k ∧ Others (Callers P) k h') h
  calm : h.Calm → awaitStop.Meets { rely := fun g g' => Callers P g g' ∧ g'.Calm } (fun _ _ => False) h
  ready : h.reasonHeard.isSome → Finishes (HeardOut h) awaitStop h
  pending : ∀ rest g, Run (Callers P) awaitStop h (.going rest) g → rest.signals ≠ [] →
    Pending (Callers P) rest g

/-- Whatever was called before, wherever it was dropped, and however triggers, signals and exits are
interleaved with it: the first call of the trigger gives the reason that everyone is told, and with it
goes the first failure. -/
theorem first_reason_is_told_to_everyone (hf : h₀.Fresh) (hu : h₀.Uncalled)
    (hC : ∀ c, C c → ∀ reason, c.Gives reason → P reason) (hl : Later (Callers P) C h₀ h) : OneReason P h := by
  have s : Sound h := (Later.sound And.left hl hf.sound).1
  have a : Alert P h := Later.alert hC hl hf.sound (hf.alert hu)
  have told : ∀ reason, h.trigger.reason = some reason → Recorded reason h := fun _ => a.first.of_reason
  refine ⟨a.first, fun reason => (h.trigger.fire_accepts reason).trans a.first.untriggered, fun reason hr =>
    ⟨told reason hr, fun C h' l => (l.sound And.left s).2.grows.trigger reason hr⟩,
    fun fallback => ⟨meets_awaitTrigger a.first fallback, fun _ hr => finishes_awaitTrigger hr fallback⟩, ?_,
    fun hc => ?_, finishes_awaitStop_heardOut, fun rest g => Pending.of_run And.left⟩
  · exact a.meets_awaitStop.weaken id (fun _ _ => trivial) id id id fun _ => id
  · exact meets_awaitStop_calm (s.isUp hc.1) a hc

/-- A resource comes up, a stop is requested, and then the resource fails: the wait tells of the request
at once, and with it goes the failure that was queued behind it. -/
theorem failure_queued_behind_a_request : ∃ h₀ h k : Host, h₀.Fresh ∧ h₀.Uncalled ∧
    Later (Callers anyReason) (fun _ => True) h₀ h ∧ h.triggerCalls = [(.requested, true)] ∧ h.exits.length = 1 ∧
    Run (Callers anyReason) awaitStop h (.returned .requested) k ∧
    k.coordinator.failure = some ("s", .io "gone") ∧ k.exits = [] := by
  obtain ⟨h₀, g, hf, hu, hboot, h, hlater, hcalls, hlength, hreason, hfailure⟩ : ∃ h₀ g : Host, h₀.Fresh ∧
      h₀.Uncalled ∧ Later (Callers anyReason) (fun _ => True) h₀ g ∧
      ∃ h : Host, Later (Callers anyReason) (fun _ => True) g h ∧ h.triggerCalls = [(.requested, true)] ∧
        h.exits.length = 1 ∧ h.reasonHeard = some .requested ∧ h.failureHeard = some ("s", .io "gone") := by
    refine ⟨{ coordinator := { config := { handleSignals := false } }, resources := [.scripted "s" {}] }, ?_,
      ⟨rfl, rfl, rfl, rfl, rfl⟩, ⟨rfl, rfl⟩, ?boot, ?_⟩
    case boot =>
      refine .tail (.single (.inr ⟨.add 0, _, trivial, .step .refl (.done _ _)⟩))
        (.inr ⟨.startAll, .returned (), trivial, ?_⟩)
      iterate 11 apply Run.step .refl
      apply Run.wait (i := 0) (.single (.inl ⟨.ready _ 0, .of_same rfl rfl⟩)) ⟨_, rfl, rfl, fun _ => nofun⟩
      iterate 4 apply Run.step .refl
      exact .done _ _
    · refine ⟨_, .tail (.single (.inr ⟨.trigger .requested, _, trivial, .step .refl (.done _ _)⟩))
        (.inl (.single (.inl ⟨.comeBack (t := 0) (r := 0) _ (.error (.io "gone")) rfl rfl, ?_⟩))),
        rfl, rfl, rfl, rfl⟩
      exact .of_same rfl rfl
  have hl := hboot.trans hlater
  have one : OneReason anyReason h := first_reason_is_told_to_everyone hf hu (fun _ _ _ _ => trivial) hl
  obtain ⟨reason, k, hrun, out⟩ := (one.ready (by rw [hreason]; rfl)).exists_run (E := Callers anyReason)
  cases hreason.symm.trans out.reason
  exact ⟨h₀, h, k, hf, hu, hl, hcalls, hlength, hrun, out.failure.trans hfailure, out.exits⟩

end ServiceHost.Lifecycle
