import ServiceHost.Lifecycle.Coordinator
import ServiceHost.Proofs.Lifecycle.Run

/-! Deadlines. A routine is cut off only at its deadline, and what a drain or a close reports as timed out or as
skipped was late. Nothing is assumed of the others but that they do not set the clock. -/

namespace ServiceHost.Lifecycle

open Relation Routine

variable {α : Type} {E : Host → Host → Prop} {h h' : Host} {d : Instant}

theorem Tick.now_le {s : List Signal} (m : Tick s h h') : h.now ≤ h'.now := by
  obtain ⟨t, ht, -, rfl⟩ := m
  exact ht

/-- The terms of a routine that does not turn back the clock. -/
abbrev clockTerms (E : Host → Host → Prop) : Terms :=
  { rely := E, guar := fun h h' => h.now ≤ h'.now }

/-- The failures that tell of a deadline were noticed at it or after it. -/
def DueIfLate (d : Instant) (fs : Failures) (h : Host) : Prop :=
  ∀ e ∈ fs, e.isDeadline = true → d ≤ h.now

theorem DueIfLate.nil {d : Instant} {h : Host} : DueIfLate d [] h := nofun

section
variable (hE : ∀ {a b}, E a b → b.now = a.now)
include hE

theorem Others.now_eq (o : Others E h h') : h'.now = h.now :=
  o.preserve (K := fun g => g.now = h.now) (fun he hg => (hE he).trans hg) rfl

/-- What is due stays due. -/
theorem Others.due (o : Others E h h') (hd : d ≤ h.now) : d ≤ h'.now := by
  rwa [Others.now_eq hE o]

theorem Waits.now_ge {s : List Signal} (w : Waits E s h h') : h.now ≤ h'.now := by
  refine w.preserve (K := fun g => h.now ≤ g.now) (fun e le => ?_) (fun tick le => ?_) (Nat.le_refl _)
  · exact (hE e).symm ▸ le
  · exact Nat.le_trans le tick.now_le

/-- A routine that does not turn back the clock ends no earlier than it began. -/
theorem Routine.Meets.onward {Q : α → Host → Prop} {r : Routine α} (m : r.Meets (clockTerms E) Q h) :
    r.Meets (clockTerms E) (fun a h' => Q a h' ∧ h.now ≤ h'.now) h :=
  (m.tracks (R := fun a b => a.now ≤ b.now) Nat.le_trans (fun he => Nat.le_of_eq (hE he).symm) id
    Tick.now_le (Nat.le_refl _)).weaken id (fun _ => id) (fun _ => trivial) id id fun _ => id

/-- A routine is cut off at the deadline, not before. -/
theorem meets_within_late (r : Routine α) (h : Host) :
    (r.within d).Meets { rely := E } (fun o h' => o = none → d ≤ h'.now) h := by
  have hdue : ∀ {s : List Signal} {g : Host} {i : Nat}, Picks (s ++ [.due d]) g i → ¬ i < s.length →
      d ≤ g.now := by
    rintro s g i ⟨x, hx, hholds, -⟩ hi
    rw [List.getElem?_append_right (Nat.le_of_not_lt hi), List.getElem?_singleton] at hx
    split at hx
    · cases hx
      exact of_decide_eq_true hholds
    · cases hx
  induction r generalizing h with
  | done a => exact ⟨trivial, nofun⟩
  | panic p => exact ⟨trivial, trivial⟩
  | step f next ih => exact ⟨trivial, trivial, fun h' _ => ih h h'⟩
  | wait s next ih =>
    refine ⟨False.elim, fun g _ => ⟨trivial, fun i hi => ?_⟩⟩
    dsimp only
    split
    · exact ih i g
    · next hge => exact ⟨trivial, fun _ => hdue hi hge⟩
  | serve s handle next ih =>
    refine ⟨trivial, False.elim, fun _ => True, trivial, fun _ g _ _ => ⟨trivial, fun i hi => ?_⟩⟩
    refine ⟨trivial, fun _ => trivial, fun _ h₂ o => ?_⟩
    dsimp only at o ⊢
    split
    · exact ih i h₂
    · next hge =>
      rw [if_neg hge] at o
      exact ⟨trivial, fun _ => by rw [Others.now_eq hE o]; exact hdue hi hge⟩

/-! ## Drains -/

theorem meets_skipActions_late (as : List Action) (hd : d ≤ h.now) :
    (skipActions as).Meets (clockTerms E) (DueIfLate d) h := by
  induction as generalizing h with
  | nil => exact ⟨trivial, .nil⟩
  | cons a rest ih =>
    refine meets_update.2 ⟨trivial, Nat.le_refl _, ?_⟩
    intro h₁ o₁
    have hd₁ : d ≤ h₁.now := Others.due hE o₁ hd
    refine (Meets.onward hE (ih hd₁)).andThen ?_
    rintro fs h₂ - ⟨-, hle⟩
    exact ⟨trivial, fun _ _ _ => Nat.le_trans hd₁ hle⟩

omit hE in
theorem meets_recordOutcome_late (a : Action) (t : TaskId) (o : Outcome) :
    (recordOutcome a t o).Meets (clockTerms E) (DueIfLate d) h := by
  unfold recordOutcome
  split <;>
  · refine meets_update.2 ⟨trivial, Nat.le_refl _, fun _ _ => ⟨trivial, ?_⟩⟩
    simp [DueIfLate, CleanupError.isDeadline]

theorem meets_runAction_late (a : Action) : (runAction a d).Meets (clockTerms E) (DueIfLate d) h := by
  unfold runAction
  split
  · exact ⟨trivial, trivial⟩
  · refine meets_act.2 ⟨trivial, Nat.le_refl _, fun h₁ _ => ?_⟩
    refine meets_waitAny.2 ⟨False.elim, fun h₂ _ => ⟨trivial, fun i hi => ?_⟩⟩
    rcases picks_ended_or_due hi with ⟨rfl, -⟩ | ⟨rfl, -, hdue⟩
    · refine meets_read.2 ⟨trivial, Nat.le_refl _, fun h₃ _ => ?_⟩
      split
      · exact meets_recordOutcome_late a _ _
      · exact ⟨trivial, nofun⟩
    · exact meets_update.2 ⟨trivial, Nat.le_refl _, fun h₃ o₃ => ⟨trivial, fun _ _ _ => Others.due hE o₃ hdue⟩⟩

theorem meets_runActions_late (as : List Action) :
    (runActions d as).Meets (clockTerms E) (DueIfLate d) h := by
  induction as generalizing h with
  | nil => exact ⟨trivial, .nil⟩
  | cons a rest ih =>
    refine meets_read.2 ⟨trivial, Nat.le_refl _, fun h₁ o₁ => ?_⟩
    split
    · next hexpired =>
      exact meets_skipActions_late hE _ (Others.due hE o₁ (of_decide_eq_true hexpired))
    · refine (meets_runAction_late hE a).andThen ?_
      rintro fs h₂ - hfs
      refine (Meets.onward hE ih).andThen ?_
      rintro fs' h₃ - ⟨hfs', hle⟩
      refine ⟨trivial, fun e he hlate => ?_⟩
      rcases List.mem_append.1 he with he | he
      · exact Nat.le_trans (hfs e he hlate) hle
      · exact hfs' e he hlate

/-- A drain that is over before its deadline timed nothing out and skipped nothing. -/
theorem meets_drain_late : (drain d).Meets (clockTerms E) (DueIfLate d) h := by
  refine meets_act.2 ⟨trivial, ?_, fun h₁ o₁ => ?_⟩
  · cases hc : h.registry.closed <;> simp [Host.closeRegistry, Registry.close, hc, Host.emit, Host.note]
  split
  · exact ⟨trivial, .nil⟩
  · refine meets_update.2 ⟨trivial, Nat.le_refl _, fun h₂ _ => ?_⟩
    refine (meets_runActions_late hE _).andThen ?_
    rintro fs h₃ - hfs
    exact meets_update.2 ⟨trivial, Nat.le_refl _, fun h₄ o₄ => ⟨trivial, fun e he hlate =>
      Others.due hE o₄ (hfs e he hlate)⟩⟩

/-! ## Closes -/

/-- What the closing of a resource whose turn came in `h` tells of the deadline: it was skipped exactly when it came
too late, and what was cut off ended late. -/
structure OnTime (d : Instant) (h : Host) (fs : Failures) (h' : Host) : Prop where
  skipped : (∃ n, fs = [.skipped n]) ↔ d ≤ h.now
  timedOut : ∀ n, fs = [.timedOut n] → d ≤ h'.now

omit hE in
theorem OnTime.of_begun {fs : Failures} (hlt : h.now < d) (hs : ∀ n, fs ≠ [.skipped n])
    (ht : ∀ n, fs = [.timedOut n] → d ≤ h'.now) : OnTime d h fs h' where
  skipped := ⟨fun ⟨n, hn⟩ => absurd hn (hs n), fun hle => absurd hlt (Nat.not_lt.2 hle)⟩
  timedOut := ht

theorem meets_joinStart_late {s : Started} {name : String} {h₀ : Host} (hlt : h₀.now < d) :
    (joinStart s name d).Meets { rely := E } (OnTime d h₀) h := by
  refine meets_waitAny.2 ⟨False.elim, fun h₁ _ => ⟨trivial, fun i hi => ?_⟩⟩
  rcases picks_ended_or_due hi with ⟨rfl, -⟩ | ⟨rfl, -, hdue⟩
  · refine meets_read.2 ⟨trivial, trivial, fun h₂ _ => ?_⟩
    split
    · exact meets_update.2 ⟨trivial, trivial, fun _ _ => ⟨trivial, .of_begun hlt nofun nofun⟩⟩
    · exact meets_update.2 ⟨trivial, trivial, fun _ _ => ⟨trivial, .of_begun hlt nofun nofun⟩⟩
    · exact ⟨trivial, .of_begun hlt nofun nofun⟩
  · exact meets_update.2 ⟨trivial, trivial, fun h₂ o₂ => ⟨trivial, .of_begun hlt nofun fun _ _ =>
      Others.due hE o₂ hdue⟩⟩

theorem meets_closeResource_late (s : Started) :
    (closeResource s d).Meets { rely := E } (OnTime d h) h := by
  refine meets_read.2 ⟨trivial, trivial, fun h₁ o₁ => ?_⟩
  refine meets_read.2 ⟨trivial, trivial, fun h₂ _ => ?_⟩
  have hnow : h₁.now = h.now := Others.now_eq hE o₁
  split
  · next hexpired =>
    have hle : d ≤ h₁.now := of_decide_eq_true hexpired
    refine meets_update.2 ⟨trivial, trivial, fun h₃ _ => ⟨trivial, ?_⟩⟩
    exact ⟨⟨fun _ => hnow ▸ hle, fun _ => ⟨_, rfl⟩⟩, nofun⟩
  · next hexpired =>
    have hlt : h.now < d := by
      rw [← hnow]
      exact Nat.lt_of_not_le fun hle => hexpired (decide_eq_true hle)
    refine meets_update.2 ⟨trivial, trivial, fun h₃ _ => ?_⟩
    refine (meets_within_late hE _ _).andThen ?_
    rintro result h₄ - hcut
    refine meets_update.2 ⟨trivial, trivial, fun h₅ o₅ => ?_⟩
    have hnow₅ : h₅.now = (h₄.record _).now := Others.now_eq hE o₅
    split
    · exact meets_joinStart_late hE hlt
    · exact meets_joinStart_late hE hlt
    · exact meets_update.2 ⟨trivial, trivial, fun _ _ => ⟨trivial, .of_begun hlt nofun nofun⟩⟩
    · refine meets_update.2 ⟨trivial, trivial, fun h₆ o₆ => ⟨trivial, .of_begun hlt nofun fun _ _ => ?_⟩⟩
      rw [Others.now_eq hE o₆]
      exact Nat.le_trans (hcut rfl) (Nat.le_of_eq hnow₅.symm)

end

end ServiceHost.Lifecycle
