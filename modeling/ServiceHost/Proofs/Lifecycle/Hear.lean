import ServiceHost.Proofs.Lifecycle.Boot

/-! Waiting for a reason to stop. Meanwhile the coordinator hears of exits in the order of their arrival and keeps
the first failure among them. -/

namespace ServiceHost.Lifecycle

open Relation Routine

variable {D : Instant → Prop} {P : Prop} {h h' h'' : Host}

/-- The failure that an exit tells of. -/
def Exit.failure? (e : Exit) : Option (String × ResourceError) :=
  match e.result with
  | .ok () => none
  | .error err => if err = .closed then none else some (e.resource, err)

/-- Every exit was heard of or is queued, and the first failure that was heard of is kept. -/
def Attentive (h : Host) : Prop :=
  ∃ heard, h.arrivals = heard ++ h.exits ∧ h.coordinator.failure = heard.findSome? Exit.failure?

/-- Hearing of an exit may fire the trigger, and keeps the first failure. -/
theorem Host.onExit_eq (h : Host) (e : Exit) :
    ∃ trigger trace, (h.trigger.reason.isSome → trigger = h.trigger) ∧
      h.onExit e =
        { h with
          trigger, trace
          coordinator := { h.coordinator with failure := h.coordinator.failure.or e.failure? } } := by
  have hclean : e.failure? = none → h.coordinator =
      { h.coordinator with failure := h.coordinator.failure.or e.failure? } := fun hn => by
    rw [hn, Option.or_none]
  unfold onExit
  split
  · next hr =>
    refine ⟨h.trigger, (h.emit (.startReturned e.resource)).trace, fun _ => rfl, ?_⟩
    rw [← hclean (by simp [Exit.failure?, hr])]
    rfl
  · next hr =>
    refine ⟨h.trigger, (h.emit (.resourceClosed e.resource)).trace, fun _ => rfl, ?_⟩
    rw [← hclean (by simp [Exit.failure?, hr])]
    rfl
  · next err hne hr =>
    have hf : e.failure? = some (e.resource, err) := by
      simpa [Exit.failure?, hr] using hne
    refine ⟨(h.trigger.fire (.failed e.resource)).2,
      ((h.emit (.resourceFailed e.resource err)).fire (.failed e.resource)).2.trace, fun ht => ?_, ?_⟩
    · obtain ⟨r, hr⟩ := Option.isSome_iff_exists.1 ht
      simp [Trigger.fire, hr]
    · rw [hf]
      simp only [Option.orElse_eq_or]
      rfl

/-- Hearing of several exits keeps the first failure among them. -/
theorem Host.foldl_onExit_eq (es : List Exit) (h : Host) :
    ∃ trigger trace, (h.trigger.reason.isSome → trigger = h.trigger) ∧
      es.foldl onExit h =
        { h with
          trigger, trace
          coordinator := { h.coordinator with
            failure := h.coordinator.failure.or (es.findSome? Exit.failure?) } } := by
  induction es generalizing h with
  | nil => exact ⟨h.trigger, h.trace, fun _ => rfl, by simp⟩
  | cons e rest ih =>
    obtain ⟨t, tr, ht, he⟩ := h.onExit_eq e
    obtain ⟨t', tr', ht', he'⟩ := ih (h.onExit e)
    refine ⟨t', tr', fun hs => ?_, ?_⟩
    · rw [he] at ht'
      have htt : t = h.trigger := ht hs
      rw [ht' (by rw [htt]; exact hs), htt]
    · rw [List.foldl_cons, he', he, Option.or_assoc, List.findSome?_cons]
      cases e.failure? <;> rfl

/-- While the coordinator hears of no exit, those that arrive are queued. -/
theorem Keeps.attentive {l : List (Instant × Deed)} (k : Keeps D P l h h') (a : Attentive h) :
    Attentive h' := by
  obtain ⟨heard, ha, hf⟩ := a
  obtain ⟨es, he, ha'⟩ := k.exits
  exact ⟨heard, by rw [ha', he, ha, List.append_assoc], k.failure.trans hf⟩

/-! ## What a wait does to the rest of the host -/

/-- What waiting keeps to: exits are heard of in order, nothing is drained, started or closed. -/
structure Hears (D : Instant → Prop) (P : Prop) (h h' : Host) : Prop extends Spares D P h h' where
  leaves : Leaves h h'
  attentive : Attentive h → Attentive h'

namespace Hears

theorem trans (m : Hears D P h h') (m' : Hears D P h' h'') : Hears D P h h'' where
  toSpares := m.toSpares.trans m'.toSpares
  leaves := m.leaves.trans m'.leaves
  attentive ha := m'.attentive (m.attentive ha)

theorem of_keeps (k : Keeps D P [] h h') (m : Leaves h h') : Hears D P h h' where
  toSpares := k.toSpares
  leaves := m
  attentive := k.attentive

theorem of_waits {s : List Signal} (w : Waits (Peers D P) s h h') : Hears D P h h' :=
  .of_keeps w.keeps w.frame.leaves

theorem of_others (o : Others (Peers D P) h h') : Hears D P h h' :=
  of_waits (Others.waits (s := []) o)

/-- The first exits in the queue are heard of. -/
theorem of_exits {es rest : List Exit} (he : h.exits = es ++ rest) :
    Hears D P h (es.foldl Host.onExit { h with exits := rest }) := by
  obtain ⟨t, tr, ht, heq⟩ := Host.foldl_onExit_eq es { h with exits := rest }
  rw [heq]
  have hleaves : Leaves h { h with
      exits := rest, trigger := t, trace := tr
      coordinator := { h.coordinator with
        failure := h.coordinator.failure.or (es.findSome? Exit.failure?) } } :=
    .of_same rfl rfl ht rfl rfl rfl rfl rfl rfl
  exact
    { toSpares := .of_own hleaves.grows rfl rfl rfl fun hle hb => Host.no_new_task rfl hle hb
      leaves := hleaves
      attentive := fun ⟨heard, ha, hf⟩ => by
        refine ⟨heard ++ es, by rw [List.append_assoc, ← he]; exact ha, ?_⟩
        rw [List.findSome?_append, ← hf] }

end Hears

theorem hears_hearExit (h : Host) : Hears D P h h.hearExit := by
  unfold Host.hearExit
  split
  · exact .of_keeps (.refl h) (Leaves.of_same rfl rfl (fun _ => rfl) rfl rfl rfl rfl rfl rfl)
  · next e rest he =>
    have hfirst : h.exits = [e] ++ rest := he
    exact .of_exits hfirst

theorem hears_hearExits (h : Host) : Hears D P h h.hearExits := .of_exits (List.append_nil _).symm

theorem Host.exits_hearExits (h : Host) : h.hearExits.exits = [] := by
  obtain ⟨_, _, -, he⟩ := Host.foldl_onExit_eq h.exits { h with exits := [] }
  rw [hearExits, he]

/-! ## The wait for a reason to stop -/

/-- The wait is over: the queue was empty, and from then on only the others moved. -/
def Waited (D : Instant → Prop) (P : Prop) (h h' : Host) : Prop :=
  ∃ g, Hears D P h g ∧ g.exits = [] ∧ Others (Peers D P) (g.record .waited) h'

/-- The terms of the wait: it ends when the trigger is fired. -/
abbrev waitTerms (D : Instant → Prop) (P : Prop) : Terms :=
  { rely := Peers D P, always := Proper, timely := True, panics := fun _ => False }

theorem Idle.recordWaited (i : Idle h) : Idle (h.record .waited) := by
  have hd : (h.record .waited).doings = h.doings ++ [.waited] := h.doings_record rfl
  exact
    { toProper := i.toProper.record rfl (by rintro _ ⟨⟩) (by rintro _ ⟨⟩) (by rintro _ ⟨⟩) trivial
      fresh := fun hp hb => by
        obtain ⟨hs, ha, hq⟩ := i.fresh hp hb
        refine ⟨?_, ?_, by simpa [hd] using hq⟩
        · rw [hd, startsOf_append, hs]
          rfl
        · rw [hd, addsOf_append, ha]
          exact List.append_nil _
      upright := fun hp => (i.upright hp).concat hd rfl rfl nofun rfl rfl }

theorem meets_awaitStop (i : Idle h) :
    awaitStop.Meets (waitTerms D P) (fun _ h' => Idle h' ∧ Waited D P h h') h := by
  refine meets_update.2 ⟨i.toProper, trivial, ?_⟩
  intro h₁ o₁
  have m₁ : Hears D P h h₁ := (Hears.of_keeps (keeps_listen h) (leaves_listen h)).trans (.of_others o₁)
  refine ⟨trivial, fun _ => ⟨0, rfl, fun _ => rfl⟩, Hears D P h, m₁, ?_⟩
  intro h₂ h₃ m₂ w
  have m₃ : Hears D P h h₃ := m₂.trans (.of_waits w)
  refine ⟨i.toProper.leaves m₃.leaves, fun n _ => ⟨trivial, fun hstay => ?_, ?_⟩⟩
  · dsimp only at hstay ⊢
    split at hstay
    · cases hstay
    · next hn => rw [if_neg hn]; exact m₃.trans (hears_hearExit h₃)
  · intro hleave h₄ o₄
    dsimp only at hleave o₄
    split at hleave
    · next hn =>
      rw [if_pos hn] at o₄
      have m₄ : Hears D P h h₄ := m₃.trans (.of_others o₄)
      refine meets_read.2 ⟨i.toProper.leaves m₄.leaves, trivial, ?_⟩
      intro h₅ o₅
      have m₅ : Hears D P h h₅ := m₄.trans (.of_others o₅)
      refine meets_update.2 ⟨i.toProper.leaves m₅.leaves, trivial, ?_⟩
      intro h₆ o₆
      have m : Hears D P h h₅.hearExits := m₅.trans (hears_hearExits h₅)
      have i₆ : Idle h₆ := (i.leaves m.leaves).recordWaited.leaves o₆.frame.leaves
      exact ⟨i₆.toProper, i₆, _, m, h₅.exits_hearExits, o₆⟩
    · cases hleave

end ServiceHost.Lifecycle
