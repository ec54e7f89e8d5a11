import ServiceHost.Lifecycle.Coordinator
import ServiceHost.Proofs.Lifecycle.Guest

/-! Closing the resources under one deadline. For each resource there is a verdict: how its closing ended, what
failures that adds, and what was done for it. -/

namespace ServiceHost.Lifecycle

open Relation Routine

variable {D : Instant → Prop} {P : Prop} {h h' h'' : Host} {s : Started} {d : Instant}

/-- A result that is not a failure. -/
def Clean (q : Except ResourceError Unit) : Prop := q = .ok () ∨ q = .error .closed

/-- What is done for one resource: nothing, when it is skipped, or a close before the deadline. -/
inductive CloseSteps (s : Started) (d : Instant) : List (Instant × Deed) → Prop where
  | skip : CloseSteps s d []
  | close {t u q} : t < d → CloseSteps s d [(t, .close s), (u, .closed s q)]

/-- How the closing of a resource ended, with the failures that it adds and what was done. -/
inductive Verdict (h : Host) (s : Started) (d : Instant) :
    Failures → List (Instant × Deed) → Prop where
  | skipped : Verdict h s d [.skipped (h.resourceName s.resource)] []
  | stopped {t u q v} : t < d → Clean q → h.outcome? s.task = some (.returned v) →
      Verdict h s d [] [(t, .close s), (u, .closed s (some q))]
  | panicked {t u q p} : t < d → Clean q → h.outcome? s.task = some (.panicked p) →
      Verdict h s d [.failed (h.resourceName s.resource) (Cause.ofPanic s.task p)]
        [(t, .close s), (u, .closed s (some q))]
  /-- The start had not ended at the deadline. -/
  | tooSlow {t u q} : t < d → Clean q → h.outcome? s.task = some .aborted →
      Verdict h s d [.timedOut (h.resourceName s.resource)]
        [(t, .close s), (u, .closed s (some q))]
  | failed {t u e} : t < d → e ≠ .closed →
      Verdict h s d [.failed (h.resourceName s.resource) (.resource e)]
        [(t, .close s), (u, .closed s (some (.error e)))]
  | cutOff {t u} : t < d →
      Verdict h s d [.timedOut (h.resourceName s.resource)]
        [(t, .close s), (u, .closed s none)]

namespace Verdict

variable {fs : Failures} {l : List (Instant × Deed)}

theorem steps (v : Verdict h s d fs l) : CloseSteps s d l := by
  cases v with
  | skipped => exact .skip
  | stopped ht _ _ => exact .close ht
  | panicked ht _ _ => exact .close ht
  | tooSlow ht _ _ => exact .close ht
  | failed ht _ => exact .close ht
  | cutOff ht => exact .close ht

theorem grows (v : Verdict h s d fs l) (g : h.Grows h')
    (hname : ∀ r, h'.resourceName r = h.resourceName r) : Verdict h' s d fs l := by
  cases v with
  | skipped => rw [← hname]; exact .skipped
  | stopped ht hq ho => exact .stopped ht hq (g.outcome? ho)
  | panicked ht hq ho => rw [← hname]; exact .panicked ht hq (g.outcome? ho)
  | tooSlow ht hq ho => rw [← hname]; exact .tooSlow ht hq (g.outcome? ho)
  | failed ht he => rw [← hname]; exact .failed ht he
  | cutOff ht => rw [← hname]; exact .cutOff ht

end Verdict

/-! ## One resource -/

/-- The coordinator has come from `h` to `h'`, closing resources. -/
structure Closing (D : Instant → Prop) (P : Prop) (d : Instant) (l : List (Instant × Deed))
    (aborts : List TaskId) (h h' : Host) : Prop where
  frame : Frame D l aborts h h'
  inTime : h.InTime d h'
  settling : h'.Settling P

namespace Closing

variable {l l' : List (Instant × Deed)} {A A' : List TaskId}

theorem refl (hs : h.Settling P) : Closing D P d [] [] h h := ⟨.refl h, .inr rfl, hs⟩

theorem trans (c : Closing D P d l A h h') (c' : Closing D P d l' A' h' h'') :
    Closing D P d (l ++ l') (A ++ A') h h'' :=
  ⟨c.frame.trans c'.frame, c.inTime.trans c'.inTime, c'.settling⟩

theorem waits {signals : List Signal} (c : Closing D P d l A h h')
    (w : Waits (Peers D P) signals h' h'') (hd : .due d ∈ signals) : Closing D P d l A h h'' := by
  have c' : Closing D P d [] [] h' h'' :=
    ⟨w.frame, Waits.now_le (fun m => m.1.now) hd w, Guest.settling w c.settling⟩
  simpa using c.trans c'

theorem others (c : Closing D P d l A h h') (o : Others (Peers D P) h' h'') :
    Closing D P d l A h h'' := by
  have c' : Closing D P d [] [] h' h'' :=
    ⟨o.frame, .inr o.now, Guest.settling (Others.waits o (s := [])) c.settling⟩
  simpa using c.trans c'

theorem emit (c : Closing D P d l A h h') (e : Event) : Closing D P d l A h (h'.emit e) :=
  c.others (others_note h' _)

theorem record (c : Closing D P d l A h h') {deed : Deed} (hd : deed.isForeign = false)
    (hstart : ∀ s, deed ≠ .start s) (hup : ∀ s, deed ≠ .up s)
    (hsettled : ∀ s, deed = .settled s → h'.isEnded s.task = true) :
    Closing D P d (l ++ [(h'.now, deed)]) A h (h'.record deed) := by
  have c' : Closing D P d [(h'.now, deed)] [] h' (h'.record deed) :=
    ⟨.record h' hd hstart (fun s e => absurd e (hup s)) hsettled, .inr rfl, c.settling.1,
      c.settling.2.of_same rfl rfl⟩
  simpa using c.trans c'

theorem abort (c : Closing D P d l A h h')
    (hj : h.job? s.task = some (.start s.resource .coordinator)) :
    Closing D P d l (A ++ [s.task]) h (h'.abort s.task) := by
  have c' : Closing D P d [] [s.task] h' (h'.abort s.task) :=
    ⟨.abort (c.frame.grows.job? hj), .inr rfl, c.settling.1, c.settling.2.of_same rfl rfl⟩
  simpa using c.trans c'

end Closing

/-- What holds at every moment while a resource is closed. -/
def Tending (D : Instant → Prop) (P : Prop) (s : Started) (d : Instant) (h h' : Host) : Prop :=
  ∃ l L A, CloseSteps s d L ∧ l <+: L ∧ A ⊆ [s.task] ∧ Closing D P d l A h h'

/-- What holds when the coordinator is through with a resource. -/
def Tended (D : Instant → Prop) (P : Prop) (s : Started) (d : Instant) (h : Host)
    (fs : Failures) (h' : Host) : Prop :=
  ∃ l, Verdict h' s d fs l ∧ Closing D P d l [s.task] h h' ∧ h'.isEnded s.task = true

theorem Closing.tending {l : List (Instant × Deed)} (c : Closing D P d l [] h h')
    (hl : CloseSteps s d l) : Tending D P s d h h' :=
  ⟨l, l, [], hl, List.prefix_rfl, List.nil_subset _, c⟩

theorem Closing.tended {l : List (Instant × Deed)} {fs : Failures}
    (c : Closing D P d l [s.task] h h') (v : Verdict h' s d fs l) (he : h'.isEnded s.task = true)
    (o : Others (Peers D P) h' h'') :
    (pure fs : Routine Failures).Meets (timelyTerms D P (Tending D P s d h)) (Tended D P s d h) h'' := by
  have c' : Closing D P d l [s.task] h h'' := c.others o
  have ht : Tended D P s d h fs h'' :=
    ⟨l, v.grows o.frame.grows o.frame.resourceName, c', o.frame.grows.isEnded he⟩
  exact ⟨⟨l, l, [s.task], v.steps, List.prefix_rfl, List.Subset.refl _, c'⟩, ht⟩

section
variable (hj : h.job? s.task = some (.start s.resource .coordinator))
include hj

/-- The coordinator gives up on a resource: it aborts the start, if that has not ended. -/
theorem Closing.giveUp {l : List (Instant × Deed)} {fs : Failures} {e : Event}
    (c : Closing D P d l [] h h') (hl : CloseSteps s d l)
    (hv : Verdict ((h'.abort s.task).emit e) s d fs l) :
    (do update fun g => (g.abort s.task).emit e
        return fs : Routine Failures).Meets (timelyTerms D P (Tending D P s d h)) (Tended D P s d h)
      h' := by
  refine meets_update.2 ⟨c.tending hl, trivial, ?_⟩
  intro h'' o
  have he : (h'.abort s.task).isEnded s.task = true := Host.isEnded_finish_self (c.frame.grows.job? hj)
  exact ((c.abort hj).emit e).tended hv he o

theorem meets_joinStart {t u : Instant} {q : Except ResourceError Unit} (ht : t < d) (hq : Clean q)
    (hn : h.outcome? s.task ≠ some .aborted)
    (c : Closing D P d [(t, .close s), (u, .closed s (some q))] [] h h') :
    (joinStart s (h.resourceName s.resource) d).Meets (timelyTerms D P (Tending D P s d h))
      (Tended D P s d h) h' := by
  refine meets_waitAny.2 ⟨fun _ => ⟨d, by simp⟩, ?_⟩
  intro h₁ w
  have c₁ : Closing D P d [(t, .close s), (u, .closed s (some q))] [] h h₁ := c.waits w (by simp)
  refine ⟨c₁.tending (.close ht), ?_⟩
  intro i hi
  rw [← c₁.frame.resourceName]
  rcases picks_ended_or_due hi with ⟨rfl, he⟩ | ⟨rfl, hne, -⟩
  · refine meets_read.2 ⟨c₁.tending (.close ht), trivial, ?_⟩
    intro h₂ o
    have c₂ : Closing D P d [(t, .close s), (u, .closed s (some q))] [s.task] h h₂ := by
      have := c₁.others o
      exact ⟨this.frame.aborts_mono (List.nil_subset _), this.inTime, this.settling⟩
    rw [← o.frame.resourceName]
    have he₂ : h₂.isEnded s.task = true := o.frame.grows.isEnded he
    cases ho : h₁.outcome? s.task with
    | none => simp [Host.isEnded, ho] at he
    | some out =>
      have ho₂ : h₂.outcome? s.task = some out := o.frame.grows.outcome? ho
      cases out with
      | returned v =>
        refine meets_update.2 ⟨⟨_, _, _, .close ht, List.prefix_rfl, List.Subset.refl _, c₂⟩, trivial,
          ?_⟩
        intro h₃ o₃
        exact (c₂.emit _).tended (.stopped ht hq ho₂) he₂ o₃
      | panicked p =>
        refine meets_update.2 ⟨⟨_, _, _, .close ht, List.prefix_rfl, List.Subset.refl _, c₂⟩, trivial,
          ?_⟩
        intro h₃ o₃
        exact (c₂.emit _).tended (.panicked ht hq ho₂) he₂ o₃
      | aborted =>
        rcases c₁.frame.start hj ho with hold | hmem
        · exact absurd hold hn
        · cases hmem
  · exact c₁.giveUp hj (.close ht) (.tooSlow ht hq
      (Host.outcome?_finish_self (c₁.frame.grows.job? hj) hne))

theorem meets_closeResource (hs : h.Settling P) (hn : h.outcome? s.task ≠ some .aborted) :
    (closeResource s d).Meets (timelyTerms D P (Tending D P s d h)) (Tended D P s d h) h := by
  have c₀ : Closing D P d [] [] h h := .refl hs
  refine meets_read.2 ⟨c₀.tending .skip, trivial, ?_⟩
  intro h₁ o₁
  have c₁ : Closing D P d [] [] h h₁ := c₀.others o₁
  refine meets_read.2 ⟨c₁.tending .skip, trivial, ?_⟩
  intro h₂ o₂
  have c₂ : Closing D P d [] [] h h₂ := c₁.others o₂
  rw [← c₂.frame.resourceName]
  split
  · exact c₂.giveUp hj .skip .skipped
  · next hexpired =>
    have hlt : h₂.now < d := by
      rw [o₂.now]
      exact Nat.lt_of_not_le fun hle => hexpired (decide_eq_true hle)
    refine meets_update.2 ⟨c₂.tending .skip, trivial, ?_⟩
    intro h₃ o₃
    have c₃ : Closing D P d [(h₂.now, .close s)] [] h h₃ :=
      ((c₂.emit _).record rfl (by rintro _ ⟨⟩) (by rintro _ ⟨⟩) (by rintro _ ⟨⟩)).others o₃
    have hpasses : ∀ {h'}, (h'.now ≤ d ∨ h'.now = h₃.now) ∧ Passes D P h₃ h' →
        Closing D P d [(h₂.now, .close s)] [] h h' := fun ⟨hi, w⟩ => by
      have c' : Closing D P d [] [] h₃ _ := ⟨w.frame, hi, Guest.settling w c₃.settling⟩
      simpa using c₃.trans c'
    have hclose := ((Guest.runClose (D := D) s.resource d).within_timely d c₃.settling).weaken
      (k := timelyTerms D P (Tending D P s d h)) id (fun _ _ => trivial)
      (fun ha => ⟨_, _, [], .close (u := 0) (q := none) hlt, by simp, List.nil_subset _, hpasses ha⟩)
      id id fun _ => id
    refine hclose.andThen ?_
    intro result h₄ _ hq
    have c₄ : Closing D P d [(h₂.now, .close s)] [] h h₄ := hpasses hq
    refine meets_update.2 ⟨⟨_, _, [], .close (u := 0) (q := none) hlt, by simp, List.nil_subset _, c₄⟩,
      trivial, ?_⟩
    intro h₅ o₅
    have c₅ : Closing D P d [(h₂.now, .close s), (h₄.now, .closed s result)] [] h h₅ :=
      (c₄.record rfl (by rintro _ ⟨⟩) (by rintro _ ⟨⟩) (by rintro _ ⟨⟩)).others o₅
    rw [c₂.frame.resourceName]
    split
    · exact meets_joinStart hj hlt (.inl rfl) hn c₅
    · exact meets_joinStart hj hlt (.inr rfl) hn c₅
    · next e he =>
      rw [← c₅.frame.resourceName]
      exact c₅.giveUp hj (.close hlt) (.failed hlt fun hc => he (hc ▸ rfl))
    · rw [← c₅.frame.resourceName]
      exact c₅.giveUp hj (.close hlt) (.cutOff hlt)

end

/-! ## All resources, one after another -/

/-- What is done for the resources in turn, each settled before the next. -/
inductive CloseLog (d : Instant) : List Started → List (Instant × Deed) → Prop where
  | nil : CloseLog d [] []
  | cons {s rest l l' t} : CloseSteps s d l → CloseLog d rest l' →
      CloseLog d (s :: rest) (l ++ (t, .settled s) :: l')

inductive Verdicts (h : Host) (d : Instant) :
    List Started → Failures → List (Instant × Deed) → Prop where
  | nil : Verdicts h d [] [] []
  | cons {s rest fs fs' l l' t} : Verdict h s d fs l → Verdicts h d rest fs' l' →
      Verdicts h d (s :: rest) (fs ++ fs') (l ++ (t, .settled s) :: l')

/-- Started resources that can be closed: each with a start task of its own that was not aborted. -/
structure Closable (h : Host) (ss : List Started) : Prop where
  starts : ∀ s ∈ ss, h.job? s.task = some (.start s.resource .coordinator)
  alive : ∀ s ∈ ss, h.outcome? s.task ≠ some .aborted
  distinct : (ss.map (·.task)).Nodup

namespace Closable

variable {ss rest : List Started} {l : List (Instant × Deed)} {A : List TaskId}

theorem frame (hc : Closable h ss) (f : Frame D l A h h') (hA : ∀ s ∈ ss, s.task ∉ A) :
    Closable h' ss where
  starts s hs := f.grows.job? (hc.starts s hs)
  alive s hs ho := (f.start (hc.starts s hs) ho).elim (hc.alive s hs) (hA s hs)
  distinct := hc.distinct

theorem of_tasks (hc : Closable h ss) (ht : h'.tasks = h.tasks) : Closable h' ss where
  starts s hs := (Host.job?_congr ht _).trans (hc.starts s hs)
  alive s hs ho := hc.alive s hs ((Host.outcome?_congr ht _).symm.trans ho)
  distinct := hc.distinct

/-- Once the first is settled, the others can still be closed. -/
theorem tail (hc : Closable h (s :: rest)) (f : Frame D l [s.task] h h') : Closable h' rest := by
  obtain ⟨hfirst, hdistinct⟩ := List.nodup_cons.1 hc.distinct
  have hr : Closable h rest :=
    ⟨fun x hx => hc.starts x (List.mem_cons_of_mem _ hx),
      fun x hx => hc.alive x (List.mem_cons_of_mem _ hx), hdistinct⟩
  refine hr.frame f fun x hx hmem => hfirst ?_
  exact List.mem_map.2 ⟨x, hx, List.mem_singleton.1 hmem⟩

end Closable

/-- What holds at every moment while the resources are closed. -/
def TendingEach (D : Instant → Prop) (P : Prop) (ss : List Started) (d : Instant) (h h' : Host) :
    Prop :=
  ∃ l L A, CloseLog d ss L ∧ l <+: L ∧ A ⊆ ss.map (·.task) ∧ Closing D P d l A h h'

/-- What holds when the coordinator is through with the resources. -/
def TendedEach (D : Instant → Prop) (P : Prop) (ss : List Started) (d : Instant) (h : Host)
    (fs : Failures) (h' : Host) : Prop :=
  ∃ l, Verdicts h' d ss fs l ∧ Closing D P d l (ss.map (·.task)) h h' ∧
    ∀ s ∈ ss, h'.isEnded s.task = true

theorem Verdicts.log {ss : List Started} {fs : Failures} {l : List (Instant × Deed)}
    (v : Verdicts h d ss fs l) : CloseLog d ss l := by
  induction v with
  | nil => exact .nil
  | cons v _ ih => exact .cons v.steps ih

/-- No close begins at the deadline or after it. -/
theorem CloseLog.close_lt {ss : List Started} {l : List (Instant × Deed)} {t : Instant}
    (hl : CloseLog d ss l) (ht : (t, .close s) ∈ l) : t < d := by
  induction hl with
  | nil => cases ht
  | cons hs _ ih =>
    rcases List.mem_append.1 ht with ht | ht
    · cases hs with
      | skip => cases ht
      | close hlt =>
        rcases List.mem_pair.1 ht with he | he <;> cases he
        exact hlt
    · rcases List.mem_cons.1 ht with he | ht
      · cases he
      · exact ih ht

theorem CloseLog.exists (d : Instant) (ss : List Started) : ∃ L, CloseLog d ss L := by
  induction ss with
  | nil => exact ⟨[], .nil⟩
  | cons s rest ih =>
    obtain ⟨L, hL⟩ := ih
    exact ⟨_, .cons (t := 0) .skip hL⟩

theorem Tending.each {rest : List Started} (ht : Tending D P s d h h') :
    TendingEach D P (s :: rest) d h h' := by
  obtain ⟨l, L, A, hL, hl, hA, c⟩ := ht
  obtain ⟨L', hL'⟩ := CloseLog.exists d rest
  refine ⟨l, _, A, .cons (t := 0) hL hL', hl.trans (List.prefix_append ..), fun t ht => ?_, c⟩
  exact List.mem_cons.2 (.inl (List.mem_singleton.1 (hA ht)))

theorem meets_closeEach {ss : List Started} (hs : h.Settling P) (hc : Closable h ss) :
    (closeEach d ss).Meets (timelyTerms D P (TendingEach D P ss d h)) (TendedEach D P ss d h) h := by
  induction ss generalizing h with
  | nil =>
    have c : Closing D P d [] [] h h := .refl hs
    exact ⟨⟨[], [], [], .nil, List.prefix_rfl, List.nil_subset _, c⟩, [], .nil, c, nofun⟩
  | cons s rest ih =>
    have hj : h.job? s.task = some (.start s.resource .coordinator) := hc.starts s List.mem_cons_self
    have hfirst := (meets_closeResource (d := d) (D := D) hj hs (hc.alive s List.mem_cons_self)).weaken
      (k := timelyTerms D P (TendingEach D P (s :: rest) d h)) id (fun _ => id) Tending.each id id
      fun _ => id
    refine hfirst.andThen ?_
    rintro fs h₁ _ ⟨l, v, c₁, he₁⟩
    have hA : [s.task] ⊆ (s :: rest).map (·.task) := by simp
    -- Once the resource is settled, what is done for the rest comes after it.
    have hafter : ∀ {h' : Host} {l' L' A' t}, CloseLog d rest L' → l' <+: L' →
        A' ⊆ rest.map (·.task) →
        Closing D P d (l ++ (t, .settled s) :: l') (s.task :: A') h h' →
        TendingEach D P (s :: rest) d h h' := fun hL hl hA c =>
      ⟨_, _, _, .cons v.steps hL, List.prefix_append_right_inj _ |>.2 (List.prefix_cons_inj _ |>.2 hl),
        List.cons_subset_cons _ hA, c⟩
    refine meets_update.2 ⟨?_, trivial, fun h₂ o₂ => ?_⟩
    · obtain ⟨L', hL'⟩ := CloseLog.exists d rest
      exact ⟨l, _, _, .cons (t := 0) v.steps hL', List.prefix_append .., hA, c₁⟩
    have c₂ : Closing D P d (l ++ [(h₁.now, .settled s)]) [s.task] h h₂ :=
      (c₁.record rfl (by rintro _ ⟨⟩) (by rintro _ ⟨⟩) (by rintro _ ⟨⟩; exact he₁)).others o₂
    have hc₂ : Closable h₂ rest := hc.tail c₂.frame
    have hrest := (ih c₂.settling hc₂).weaken
      (k := timelyTerms D P (TendingEach D P (s :: rest) d h)) id (fun _ => id)
      (fun ⟨l', L', A', hL, hl, hA', c'⟩ => hafter hL hl hA' (by simpa using c₂.trans c')) id id
      fun _ => id
    refine hrest.andThen ?_
    rintro fs' h₃ ha ⟨l', v', c', he'⟩
    have c₃ : Closing D P d (l ++ (h₁.now, .settled s) :: l') ((s :: rest).map (·.task)) h h₃ := by
      simpa using c₂.trans c'
    have g : h₁.Grows h₃ := (h₁.grows_record _).trans (o₂.frame.grows.trans c'.frame.grows)
    have hname : ∀ r, h₃.resourceName r = h₁.resourceName r := fun r =>
      (c₃.frame.resourceName r).trans (c₁.frame.resourceName r).symm
    refine ⟨ha, _, .cons (v.grows g hname) v', c₃, ?_⟩
    intro x hx
    rcases List.mem_cons.1 hx with rfl | hx
    · exact g.isEnded he₁
    · exact he' x hx

end ServiceHost.Lifecycle
