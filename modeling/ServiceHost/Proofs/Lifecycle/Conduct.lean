import Mathlib.Data.List.Induction
import ServiceHost.Proofs.Lifecycle.Close

/-! The rule of the coordinator's conduct: which deed may follow which others. Resources are started in the order
in which they were added, each at most once and after all before it came up; only resources that came up are
closed, each at most once, in the order of their starts, after the drain and one at a time. -/

namespace ServiceHost.Lifecycle

def addsOf (l : List Deed) : List ResourceId := l.filterMap Deed.added?

def startsOf (l : List Deed) : List Started := l.filterMap Deed.start?

def closesOf (l : List Deed) : List Started := l.filterMap Deed.close?

/-- The deed may follow those in `l`. -/
def Deed.MayFollow (l : List Deed) : Deed → Prop
  | start s =>
    (startsOf l).map (·.resource) ++ [s.resource] <+: addsOf l ∧
      (∀ x ∈ startsOf l, .up x ∈ l) ∧ .stopping ∉ l
  | up s => s ∈ startsOf l
  | close s =>
    (closesOf l ++ [s]).Sublist (startsOf l) ∧ s ∉ closesOf l ∧ .up s ∈ l ∧ (∃ fs, .drained fs ∈ l) ∧
      ∀ x ∈ closesOf l, .settled x ∈ l
  | settled s => s ∈ closesOf l → ∃ q, .closed s q ∈ l
  | _ => True

/-- Every deed may follow those before it. -/
def Orderly (l : List Deed) : Prop := ∀ before d after, l = before ++ d :: after → d.MayFollow before

variable {l l' : List Deed} {d : Deed}

theorem mem_startsOf {s : Started} : s ∈ startsOf l ↔ .start s ∈ l := by
  refine List.mem_filterMap.trans ⟨?_, fun hs => ⟨_, hs, rfl⟩⟩
  rintro ⟨x, hx, hxs⟩
  cases x <;> cases hxs
  exact hx

theorem mem_closesOf {s : Started} : s ∈ closesOf l ↔ .close s ∈ l := by
  refine List.mem_filterMap.trans ⟨?_, fun hs => ⟨_, hs, rfl⟩⟩
  rintro ⟨x, hx, hxs⟩
  cases x <;> cases hxs
  exact hx

@[simp] theorem addsOf_append : addsOf (l ++ l') = addsOf l ++ addsOf l' := List.filterMap_append

@[simp] theorem startsOf_append : startsOf (l ++ l') = startsOf l ++ startsOf l' :=
  List.filterMap_append

@[simp] theorem closesOf_append : closesOf (l ++ l') = closesOf l ++ closesOf l' :=
  List.filterMap_append

@[simp] theorem addsOf_singleton : addsOf [d] = d.added?.toList := by
  cases hd : d.added? <;> simp [addsOf, hd]

@[simp] theorem startsOf_singleton : startsOf [d] = d.start?.toList := by
  cases hd : d.start? <;> simp [startsOf, hd]

@[simp] theorem closesOf_singleton : closesOf [d] = d.close?.toList := by
  cases hd : d.close? <;> simp [closesOf, hd]

theorem Orderly.nil : Orderly [] := by
  intro before d after h
  cases before <;> cases h

theorem Orderly.of_append (ho : Orderly (l ++ l')) : Orderly l := by
  intro before d after h
  exact ho before d (after ++ l') (by rw [h, List.append_assoc, List.cons_append])

theorem Orderly.of_prefix (hp : l <+: l') (ho : Orderly l') : Orderly l := by
  obtain ⟨t, rfl⟩ := hp
  exact ho.of_append

theorem Orderly.concat (ho : Orderly l) (hd : d.MayFollow l) : Orderly (l ++ [d]) := by
  intro before x after h
  rcases List.eq_nil_or_concat after with rfl | ⟨rest, y, rfl⟩
  · obtain ⟨rfl, hx⟩ := List.append_inj' h rfl
    cases hx
    exact hd
  · have h' : l ++ [d] = (before ++ x :: rest) ++ [y] := by simpa using h
    exact ho before x rest (List.append_inj' h' rfl).1

/-- The starts are those of the resources that were added first, in order. -/
theorem Orderly.starts (ho : Orderly l) : (startsOf l).map (·.resource) <+: addsOf l := by
  induction l using List.reverseRecOn with
  | nil => exact List.prefix_rfl
  | append_singleton l d ih =>
    have hkept : addsOf l <+: addsOf (l ++ [d]) := by
      rw [addsOf_append]
      exact List.prefix_append ..
    refine List.IsPrefix.trans ?_ hkept
    cases hd : d.start? with
    | none => simpa [hd] using ih ho.of_append
    | some s =>
      have hs : d = .start s := by cases d <;> cases hd; rfl
      have hmay : Deed.MayFollow l (.start s) := hs ▸ ho l d [] rfl
      simpa [hd] using hmay.1

/-- No resource is closed twice, and the closes come in the order of the starts. -/
theorem Orderly.closes (ho : Orderly l) :
    (closesOf l).Sublist (startsOf l) ∧ (closesOf l).Nodup := by
  induction l using List.reverseRecOn with
  | nil => exact ⟨List.Sublist.refl _, .nil⟩
  | append_singleton l d ih =>
    obtain ⟨hsub, hnodup⟩ := ih ho.of_append
    have hkept : (startsOf l).Sublist (startsOf (l ++ [d])) := by
      rw [startsOf_append]
      exact List.sublist_append_left ..
    cases hd : d.close? with
    | none =>
      rw [closesOf_append, closesOf_singleton, hd, Option.toList_none, List.append_nil]
      exact ⟨hsub.trans hkept, hnodup⟩
    | some s =>
      have hs : d = .close s := by cases d <;> cases hd; rfl
      have hmay : Deed.MayFollow l (.close s) := hs ▸ ho l d [] rfl
      obtain ⟨hsub', hnew, -⟩ := hmay
      rw [closesOf_append, closesOf_singleton, hd, Option.toList_some]
      exact ⟨hsub'.trans hkept, List.nodup_append.2 ⟨hnodup, List.pairwise_singleton ..,
        fun x hx y hy e => hnew (List.mem_singleton.1 hy ▸ e ▸ hx)⟩⟩

/-- Closing resources starts none. -/
theorem CloseLog.starts {t : Instant} {ss : List Started} {L : List (Instant × Deed)}
    (hL : CloseLog t ss L) : startsOf (L.map (·.2)) = [] := by
  induction hL with
  | nil => rfl
  | @cons s rest l l' t hs _ ih =>
    have hnone : startsOf (l.map (·.2)) = [] := by cases hs <;> rfl
    rw [List.map_append, startsOf_append, hnone, List.nil_append]
    exact ih

/-- Closing the resources `ss`, which came up and are not closed yet, follows the rule. -/
theorem Orderly.closeLog {t : Instant} {ss : List Started} {L : List (Instant × Deed)}
    (hL : CloseLog t ss L) (ho : Orderly l) (hsub : (closesOf l ++ ss).Sublist (startsOf l))
    (hnodup : (closesOf l ++ ss).Nodup) (hup : ∀ s ∈ ss, .up s ∈ l)
    (hdrained : ∃ fs, .drained fs ∈ l) (hsettled : ∀ x ∈ closesOf l, .settled x ∈ l) :
    Orderly (l ++ L.map (·.2)) := by
  induction hL generalizing l with
  | nil => simpa using ho
  | @cons s rest L L' t' hs hL' ih =>
    have hnew : s ∉ closesOf l := fun hmem =>
      (List.nodup_append.1 hnodup).2.2 s hmem s List.mem_cons_self rfl
    have hrest : ∀ {l₁ : List Deed}, (∀ x ∈ l, x ∈ l₁) → ∀ x ∈ rest, Deed.up x ∈ l₁ := fun hl x hx =>
      hl _ (hup x (List.mem_cons_of_mem _ hx))
    have hskip : (closesOf l ++ rest).Sublist (closesOf l ++ s :: rest) :=
      (List.sublist_cons_self s rest).append_left _
    cases hs with
    | skip =>
      have ho' : Orderly (l ++ [.settled s]) := ho.concat fun hmem => absurd hmem hnew
      have hc : closesOf (l ++ [.settled s]) = closesOf l := by simp [Deed.close?]
      have hst : startsOf (l ++ [.settled s]) = startsOf l := by simp [Deed.start?]
      have h := ih (l := l ++ [.settled s]) ho' (by rw [hc, hst]; exact hskip.trans hsub)
        (by rw [hc]; exact hnodup.sublist hskip) (hrest fun x => List.mem_append_left _)
        (hdrained.imp fun _ => List.mem_append_left _)
        (fun x hx => List.mem_append_left _ (hsettled x (hc ▸ hx)))
      simpa using h
    | @close t₁ t₂ q _ =>
      have hclose : Orderly (l ++ [.close s]) := by
        refine ho.concat ⟨?_, hnew, hup s List.mem_cons_self, hdrained, hsettled⟩
        refine List.Sublist.trans ?_ hsub
        exact ((List.nil_sublist rest).cons_cons s).append_left _
      have hclosed : Orderly (l ++ [.close s] ++ [.closed s q]) := hclose.concat trivial
      have ho' : Orderly (l ++ [.close s] ++ [.closed s q] ++ [.settled s]) :=
        hclosed.concat fun _ => ⟨q, by simp⟩
      have hc : closesOf (l ++ [.close s] ++ [.closed s q] ++ [.settled s]) = closesOf l ++ [s] := by
        simp only [closesOf_append, closesOf_singleton, Deed.close?, Option.toList, List.append_nil]
      have hst : startsOf (l ++ [.close s] ++ [.closed s q] ++ [.settled s]) = startsOf l := by
        simp only [startsOf_append, startsOf_singleton, Deed.start?, Option.toList, List.append_nil]
      have h := ih (l := l ++ [.close s] ++ [.closed s q] ++ [.settled s]) ho'
        (by rw [hc, hst]; simpa using hsub) (by rw [hc]; simpa using hnodup)
        (hrest fun x hx => by simp [hx]) (hdrained.imp fun _ hx => by simp [hx])
        (fun x hx => by
          rcases List.mem_append.1 (hc ▸ hx) with hx | hx
          · simp [hsettled x hx]
          · simp [List.mem_singleton.1 hx])
      simpa using h

end ServiceHost.Lifecycle
