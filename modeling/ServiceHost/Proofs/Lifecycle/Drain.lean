import Mathlib.Data.List.Flatten
import ServiceHost.Lifecycle.Drain
import ServiceHost.Proofs.Lifecycle.Peers

/-! Draining the registry: what a drain leaves alone however the others behave, and, when nobody else drains, its
account of every action. -/

namespace ServiceHost.Lifecycle

open Relation Routine

variable {α β : Type} {D : Instant → Prop} {P : Prop} {h₀ h h' h'' : Host} {d : Instant}

/-! ## In time -/

/-- The deadlines of the others, and one more. -/
def OrUnder (D : Instant → Prop) (d : Instant) : Instant → Prop := fun x => D x ∨ x = d

/-- The coordinator has come from `h` to `h'`, draining the registry until `d`. -/
structure Draining (D : Instant → Prop) (P : Prop) (d : Instant) (h h' : Host) : Prop where
  frame : Frame (OrUnder D d) [] [] h h'
  inTime : h.InTime d h'
  steady : h'.Steady P

namespace Draining

theorem refl (hs : h.Steady P) : Draining D P d h h := ⟨.refl h, .inr rfl, hs⟩

/-- A step that others might take who drain until `d` too. -/
theorem own (c : Draining D P d h h') (o : Others (Peers (OrUnder D d) P) h' h'') :
    Draining D P d h h'' :=
  ⟨by simpa using c.frame.trans o.frame, c.inTime.trans (.inr o.now), o.steady c.steady⟩

theorem others (c : Draining D P d h h') (o : Others (Peers D P) h' h'') : Draining D P d h h'' :=
  c.own (Others.mono (fun m => ⟨m.1.mono .inl, m.2⟩) o)

theorem waits {signals : List Signal} (c : Draining D P d h h')
    (w : Waits (Peers D P) signals h' h'') (hd : .due d ∈ signals) : Draining D P d h h'' :=
  ⟨by simpa using c.frame.trans (w.frame.mono .inl),
    c.inTime.trans (Waits.now_le (fun m => m.1.now) hd w), w.steady c.steady⟩

end Draining

/-- A routine that only drains. -/
def Drains (D : Instant → Prop) (P : Prop) (d : Instant) (r : Routine α) : Prop :=
  ∀ h₀ h, Draining D P d h₀ h →
    r.Meets (timelyTerms D P (Draining D P d h₀)) (fun _ => Draining D P d h₀) h

namespace Drains

theorem pure (a : α) : Drains D P d (Pure.pure a : Routine α) := by
  intro _ _ c
  exact ⟨c, c⟩

theorem bind {r : Routine α} {k : α → Routine β} (hr : Drains D P d r)
    (hk : ∀ a, Drains D P d (k a)) : Drains D P d (r >>= k) := by
  intro h₀ h c
  exact (hr h₀ h c).andThen fun a h' _ c' => hk a h₀ h' c'

theorem update {f : Host → Host} (hf : ∀ h, Others (Peers (OrUnder D d) P) h (f h)) :
    Drains D P d (update f) := by
  intro _ h c
  exact ⟨c, trivial, fun _ o => ⟨(c.own (hf h)).others o, (c.own (hf h)).others o⟩⟩

end Drains

theorem others_tally (h : Host) (m : Metrics) (e : Event) :
    Others (Peers (OrUnder D d) P) h ({ h with metrics := m }.emit e) := by
  have hm : Peers (OrUnder D d) P h { h with metrics := m } :=
    ⟨.tally h m (.inr rfl), fun hs => hs.of_same rfl rfl⟩
  exact .tail (.single hm) ⟨.note _ _, fun hs => hs.of_same rfl rfl⟩

theorem drains_skipActions (as : List Action) : Drains D P d (skipActions as) := by
  induction as with
  | nil => exact .pure []
  | cons a rest ih =>
    exact .bind (.update fun h => others_tally h _ _) fun _ => ih.bind fun _ => .pure _

theorem drains_recordOutcome (a : Action) (t : TaskId) (o : Outcome) :
    Drains D P d (recordOutcome a t o) := by
  unfold recordOutcome
  split <;> exact .bind (.update fun h => others_tally h _ _) fun _ => .pure _

theorem meets_runAction_inTime {a : Action} (ha : P ∨ a.callPanics = none)
    (c : Draining D P d h₀ h) (hlt : h.now < d) :
    (runAction a d).Meets (timelyTerms D P (Draining D P d h₀)) (fun _ => Draining D P d h₀) h := by
  unfold runAction
  split
  · next p hp => exact ⟨c, ha.resolve_right fun hn => by rw [hn] at hp; cases hp⟩
  · have hspawn : Peers (OrUnder D d) P h (h.spawn (.action a d)).2 :=
      ⟨.launch h a (.inr rfl) hlt, fun hs => hs.of_same rfl rfl⟩
    refine meets_act.2 ⟨c, trivial, ?_⟩
    intro h₁ o₁
    have c₁ : Draining D P d h₀ h₁ := (c.own (.single hspawn)).others o₁
    have hj : h₁.job? h.tasks.length = some (.action a d) :=
      o₁.frame.grows.job? (by rw [Host.job?_spawn, if_pos rfl])
    refine meets_waitAny.2 ⟨fun _ => ⟨d, by simp⟩, ?_⟩
    intro h₂ w
    have c₂ : Draining D P d h₀ h₂ := c₁.waits w (by simp)
    refine ⟨c₂, ?_⟩
    intro i hi
    rcases picks_ended_or_due hi with ⟨rfl, -⟩ | ⟨rfl, -, -⟩
    · refine meets_read.2 ⟨c₂, trivial, ?_⟩
      intro h₃ o₃
      split
      · exact drains_recordOutcome a _ _ h₀ h₃ (c₂.others o₃)
      · exact ⟨c₂.others o₃, c₂.others o₃⟩
    · have habort : Peers (OrUnder D d) P h₂ (h₂.abort h.tasks.length) :=
        ⟨.abort h₂ (.inr rfl) (w.frame.grows.job? hj), fun hs => hs.of_same rfl rfl⟩
      refine meets_update.2 ⟨c₂, trivial, ?_⟩
      intro h₃ o₃
      have c₃ : Draining D P d h₀ h₃ := (c₂.own ((others_tally _ _ _).head habort)).others o₃
      exact ⟨c₃, c₃⟩

theorem meets_runActions_inTime {as : List Action} (ha : P ∨ ∀ a ∈ as, a.callPanics = none)
    (c : Draining D P d h₀ h) :
    (runActions d as).Meets (timelyTerms D P (Draining D P d h₀)) (fun _ => Draining D P d h₀) h := by
  induction as generalizing h with
  | nil => exact ⟨c, c⟩
  | cons a rest ih =>
    have hfirst : P ∨ a.callPanics = none := ha.imp_right fun hn => hn a List.mem_cons_self
    have hrest : P ∨ ∀ a ∈ rest, a.callPanics = none :=
      ha.imp_right fun hn b hb => hn b (List.mem_cons_of_mem _ hb)
    refine meets_read.2 ⟨c, trivial, ?_⟩
    intro h₁ o₁
    have c₁ : Draining D P d h₀ h₁ := c.others o₁
    split
    · exact drains_skipActions _ h₀ h₁ c₁
    · next hexpired =>
      have hlt : h₁.now < d := by
        rw [o₁.now]
        exact Nat.lt_of_not_le fun hle => hexpired (decide_eq_true hle)
      refine (meets_runAction_inTime hfirst c₁ hlt).andThen ?_
      intro fs h₂ _ c₂
      exact (ih hrest c₂).andThen fun fs' h₃ _ c₃ => ⟨c₃, c₃⟩

theorem Host.Steady.closeRegistry (hs : h.Steady P) : h.closeRegistry.2.Steady P := by
  cases hc : h.registry.closed with
  | true => rw [Host.closeRegistry_of_closed hc]; exact hs.of_same rfl rfl
  | false =>
    rw [Host.closeRegistry_of_open hc]
    exact hs.imp_right fun ht => ⟨nofun, ht.closes⟩

theorem Host.closed_closeRegistry (h : Host) : h.closeRegistry.2.registry.closed = true := by
  cases hc : h.registry.closed with
  | true => rw [Host.closeRegistry_of_closed hc]; exact hc
  | false => rw [Host.closeRegistry_of_open hc]

/-- A drain keeps its deadline and leaves the registry closed. -/
theorem meets_drain_inTime (hs : h.Steady P) :
    (drain d).Meets (timelyTerms D P (Draining D P d h))
      (fun _ h' => Draining D P d h h' ∧ h'.registry.closed = true) h := by
  have hclose : Peers (OrUnder D d) P h h.closeRegistry.2 :=
    ⟨.closeRegistry h (.inr rfl), Host.Steady.closeRegistry⟩
  have hclosed : h.closeRegistry.2.registry.closed = true := h.closed_closeRegistry
  have c₀ : Draining D P d h.closeRegistry.2 h.closeRegistry.2 := .refl hs.closeRegistry
  have hstart : Draining D P d h h.closeRegistry.2 := (Draining.refl hs).own (.single hclose)
  -- From here on the registry stays closed.
  have hafter : ∀ {h'}, Draining D P d h.closeRegistry.2 h' →
      Draining D P d h h' ∧ h'.registry.closed = true := fun c =>
    ⟨⟨by simpa using hstart.frame.trans c.frame, hstart.inTime.trans c.inTime, c.steady⟩, by
      rw [c.frame.grows.registry hclosed]; exact hclosed⟩
  refine meets_act.2 ⟨.refl hs, trivial, ?_⟩
  intro h₁ o₁
  have c₁ : Draining D P d h.closeRegistry.2 h₁ := c₀.others o₁
  suffices hrest : ∀ r : Routine Failures,
      r.Meets (timelyTerms D P (Draining D P d h.closeRegistry.2))
        (fun _ => Draining D P d h.closeRegistry.2) h₁ →
      r.Meets (timelyTerms D P (Draining D P d h))
        (fun _ h' => Draining D P d h h' ∧ h'.registry.closed = true) h₁ by
    apply hrest
    cases hc : h.registry.closed with
    | true => rw [Host.closeRegistry_of_closed hc] at c₁ ⊢; exact ⟨c₁, c₁⟩
    | false =>
      rw [Host.closeRegistry_of_open hc] at c₁ ⊢
      have hcalls : P ∨ ∀ a ∈ h.registry.actions, a.callPanics = none := hs.imp_right (·.actions)
      refine meets_update.2 ⟨c₁, trivial, ?_⟩
      intro h₂ o₂
      have c₂ := (c₁.others (others_note h₁ _)).others o₂
      refine (meets_runActions_inTime hcalls c₂).andThen ?_
      intro fs h₃ _ c₃
      refine meets_update.2 ⟨c₃, trivial, ?_⟩
      intro h₄ o₄
      exact ⟨(c₃.own (others_tally _ _ _)).others o₄, (c₃.own (others_tally _ _ _)).others o₄⟩
  exact fun r m => (m.mono fun _ _ _ c => hafter c).weaken id (fun _ => id) (fun c => (hafter c).1)
    id id fun _ => id

end ServiceHost.Lifecycle
