import ServiceHost.Lifecycle.Behavior
import ServiceHost.Proofs.Lifecycle.Peers

/-! Closes of resources are code of others that the coordinator runs itself. Each of their steps is a move of
the others, as the registry is closed by then; cut off at a deadline, they take no longer than that. -/

namespace ServiceHost.Lifecycle

open Relation Routine

variable {α β : Type} {D : Instant → Prop} {P : Prop}

/-- The registry was closed and no panic is near. -/
def Host.Settling (P : Prop) (h : Host) : Prop := h.registry.closed = true ∧ h.Steady P

/-- The terms of a guest: every step is one that the others might take. -/
abbrev guestTerms (D : Instant → Prop) (P : Prop) : Terms :=
  { rely := Peers D P, guar := Others (Peers D P), loops := False, panics := fun _ => P }

/-- A routine of others that the coordinator runs itself. -/
def Guest (D : Instant → Prop) (P : Prop) (r : Routine α) : Prop :=
  ∀ h : Host, h.Settling P → r.Meets (guestTerms D P) (fun _ h' => h'.Settling P) h

namespace Guest

theorem settling {s : List Signal} {h h' : Host} (w : Waits (Peers D P) s h h')
    (hs : h.Settling P) : h'.Settling P :=
  ⟨by rw [w.frame.grows.registry hs.1]; exact hs.1, w.steady hs.2⟩

theorem bind {r : Routine α} {k : α → Routine β} (hr : Guest D P r) (hk : ∀ a, Guest D P (k a)) :
    Guest D P (r >>= k) := by
  intro h hs
  exact (hr h hs).andThen fun a h' _ hs' => hk a h' hs'

protected theorem pure (a : α) : Guest D P (pure a : Routine α) := fun _ hs => ⟨trivial, hs⟩

/-- What is read may be used for what follows. -/
theorem read_bind {f : Host → α} {k : α → Routine β}
    (hk : ∀ h : Host, h.Settling P → Guest D P (k (f h))) : Guest D P (read f >>= k) := by
  intro h hs
  exact ⟨trivial, .refl, fun h' ho => hk h hs h' (settling ho.waits (s := []) hs)⟩

theorem act {f : Host → α × Host}
    (hf : ∀ h : Host, h.Settling P → Others (Peers D P) h (f h).2) : Guest D P (act f) := by
  intro h hs
  exact ⟨trivial, hf h hs, fun _ ho =>
    ⟨trivial, settling ((hf h hs).waits.trans ho.waits) (s := []) hs⟩⟩

theorem update {f : Host → Host} (hf : ∀ h : Host, h.Settling P → Others (Peers D P) h (f h)) :
    Guest D P (update f) := by
  intro h hs
  exact ⟨trivial, hf h hs, fun _ ho =>
    ⟨trivial, settling ((hf h hs).waits.trans ho.waits) (s := []) hs⟩⟩

theorem read (f : Host → α) : Guest D P (read f) := by
  intro _ hs
  exact ⟨trivial, .refl, fun _ ho => ⟨trivial, settling ho.waits (s := []) hs⟩⟩

theorem wait {s : List Signal} {next : Nat → Routine α} (hn : ∀ i, Guest D P (next i)) :
    Guest D P (.wait s next) := by
  intro _ hs
  exact ⟨False.elim, fun _ hw => ⟨trivial, fun i _ => hn i _ (settling hw hs)⟩⟩

theorem waitFor (s : Signal) : Guest D P (waitFor s) := wait fun _ => .pure ()

/-- Cut off at a deadline, a guest keeps to its terms and no wait of it takes longer. -/
theorem within_timely (d : Instant) {r : Routine α} (hr : Guest D P r) {h : Host}
    (hs : h.Settling P) :
    (r.within d).Meets
      { guestTerms D P with
        always := fun h' => (h'.now ≤ d ∨ h'.now = h.now) ∧ Passes D P h h', timely := True }
      (fun _ h' => (h'.now ≤ d ∨ h'.now = h.now) ∧ Passes D P h h') h := by
  have hrely : ∀ {a b}, Peers D P a b → b.now = a.now := fun m => m.1.now
  have hguar : ∀ {a b}, Others (Peers D P) a b → b.now = a.now := fun o => o.now
  have hcut := (hr h hs).within (d := d) id hrely hguar (.inr rfl : h.now ≤ d ∨ h.now = h.now)
  have hpasses : ∀ {s a b}, Tick s a b → Passes D P a b := fun ⟨t, ht, _, e⟩ =>
    .single (.inr ⟨t, ht, nofun, e⟩)
  have hothers : ∀ {a b}, Others (Peers D P) a b → Passes D P a b := fun o => o.waits
  have hkept := hcut.tracks (R := Passes D P) ReflTransGen.trans (fun m => .single (.inl m)) hothers
    hpasses .refl
  exact (hkept.mono fun o h' ha hq => ⟨ha.1.2, hq.2⟩).weaken id (fun _ => id)
    (fun ha => ⟨ha.1.2, ha.2⟩) id id fun _ => id

/-- Cut off at a deadline, a guest is still one. -/
theorem within (d : Instant) {r : Routine α} (hr : Guest D P r) : Guest D P (r.within d) :=
  fun _ hs => ((hr.within_timely d hs).mono fun _ _ _ hq => settling hq.2 hs).weaken id (fun _ => id)
    (fun _ => trivial) (fun ht => ht.elim) id fun _ => id

end Guest

/-! ## The instructions of a script -/

theorem others_fire (h : Host) (reason : StopReason) : Others (Peers D P) h (h.fire reason).2 :=
  Peers.of_move (.fire h reason) rfl rfl

theorem others_change (h : Host) (r : ResourceId) {f : Resource → Resource}
    (hname : ∀ x, (f x).name = x.name) (hquiet : ∀ x, x.ClosesQuietly → (f x).ClosesQuietly) :
    Others (Peers D P) h (h.modifyResource r f) :=
  .single ⟨.change h r hname, fun hs => hs.modifyResource r hquiet⟩

theorem Resource.requestClose_name (x : Resource) : x.requestClose.name = x.name := by
  unfold requestClose
  split <;> rfl

theorem Resource.ClosesQuietly.requestClose {x : Resource} (hx : x.ClosesQuietly) :
    x.requestClose.ClosesQuietly := by
  intro s hs
  unfold Resource.requestClose at hs
  split at hs
  · next t ht => cases hs; exact hx t ht
  · cases hs
  · exact hx s hs

theorem Resource.mapClient_name (f : Client → Client) (x : Resource) :
    (x.mapClient f).name = x.name := by
  unfold mapClient
  split <;> rfl

theorem Resource.mapServer_name (f : Server → Server) (x : Resource) : (x.mapServer f).name = x.name := by
  unfold mapServer
  split <;> rfl

theorem Resource.ClosesQuietly.mapClient {x : Resource} (f : Client → Client)
    (hx : x.ClosesQuietly) : (x.mapClient f).ClosesQuietly := by
  intro s hs
  unfold Resource.mapClient at hs
  split at hs
  · cases hs
  · exact hx s hs

namespace Guest

theorem emit (e : Event) : Guest D P (emit e) := update fun h _ => others_note h _

theorem say (who text : String) : Guest D P (say who text) := update fun h _ => others_note h _

theorem sleep (ms : Nat) : Guest D P (sleep ms) := bind (read _) fun _ => waitFor _

theorem hang : Guest D P (hang : Routine α) := by
  intro _ hs
  refine ⟨False.elim, fun _ hw => ⟨trivial, ?_⟩⟩
  rintro i ⟨x, hx, -⟩
  cases hx

/-- The registry was drained before. -/
theorem drain (d : Instant) : Guest D P (drain d) := by
  intro h hs
  have hclosed := Host.closeRegistry_of_closed hs.1
  refine meets_act.2 ⟨trivial, ?_, ?_⟩
  · rw [hclosed]
    exact others_note h _
  · intro h' ho
    rw [hclosed] at ho ⊢
    have hpasses : Passes D P h h' := (Others.waits (others_note h _)).trans (Others.waits ho)
    exact ⟨trivial, settling hpasses hs⟩

theorem runInstruction (role : Role) {i : Instruction} (hi : P ∨ ∀ p, i ≠ .panic p) :
    Guest D P (runInstruction role i) := by
  cases i with
  | note text => exact say role.who text
  | ready =>
    simp only [Lifecycle.runInstruction]
    split
    · exact update fun h _ => Peers.of_move (.ready h _) rfl rfl
    · exact .pure ()
  | isReady =>
    simp only [Lifecycle.runInstruction]
    split
    · exact bind (read _) fun _ => say _ _
    · exact .pure ()
  | sleep ms => exact sleep ms
  | hang => exact hang
  | awaitClose =>
    simp only [Lifecycle.runInstruction]
    split
    · exact waitFor _
    · exact .pure ()
  | requestClose =>
    simp only [Lifecycle.runInstruction]
    split
    · exact update fun h _ => others_change h _ Resource.requestClose_name
        fun _ hx => hx.requestClose
    · exact .pure ()
  | trigger reason => exact bind (act fun h _ => others_fire h reason) fun _ => say _ _
  | register name body =>
    exact bind (act fun h _ => .single ⟨.register h _, fun hs => hs.register rfl⟩) fun _ => say _ _
  | remaining =>
    simp only [Lifecycle.runInstruction]
    split
    · exact update fun h _ => others_note h _
    · exact .pure ()
  | boundedSleep ms =>
    refine bind ?_ fun _ => say _ _
    simp only [Role.bounded]
    split
    · exact (sleep ms).within _
    · exact bind (sleep ms) fun _ => .pure _
  | drain ms => exact bind (read _) fun d => bind (drain d) fun _ => say _ _
  | awaitTrigger => exact bind (bind (waitFor _) fun _ => bind (read _) fun _ => .pure _) fun _ => say _ _
  | panic p => exact fun h _ => ⟨trivial, hi.resolve_right fun hn => hn p rfl⟩
  | succeed => exact .pure ()
  | fail _ => exact .pure ()

theorem runScript (role : Role) {s : Script} (hs : P ∨ ∀ p, .panic p ∉ s) :
    Guest D P (runScript role s) := by
  induction s with
  | nil => exact .pure _
  | cons i rest ih =>
    have hi : P ∨ ∀ p, i ≠ .panic p := hs.imp_right fun hn p e => hn p (e ▸ List.mem_cons_self)
    have hrest : P ∨ ∀ p, .panic p ∉ rest := hs.imp_right fun hn p hp =>
      hn p (List.mem_cons_of_mem _ hp)
    unfold Lifecycle.runScript
    split
    · exact .pure _
    · exact .pure _
    · exact .pure _
    · next heq =>
      cases heq
      exact bind (runInstruction role hi) fun _ => ih hrest

/-! ## Closes -/

theorem awaitAnswer (a : Net.Answer) : Guest D P (awaitAnswer a) := by
  cases a with
  | after ms result => exact bind (sleep ms) fun _ => .pure _
  | never => exact hang

theorem closeServer (r : ResourceId) (s : Server) (d : Instant) : Guest D P (closeServer r s d) := by
  refine bind (update fun h _ => others_change h r Resource.requestClose_name
    fun _ hx => hx.requestClose) ?_
  intro _
  split
  · exact .pure _
  · refine bind (emit _) fun _ => bind ((waitFor _).within d) ?_
    intro o
    cases o with
    | some u => exact .pure _
    | none => exact bind (emit _) fun _ => .pure _

theorem disconnect (r : ResourceId) (c : Client) (d : Instant) : Guest D P (disconnect r c d) := by
  unfold Lifecycle.disconnect
  split
  · exact .pure _
  · refine bind (update fun h _ => others_change h r (Resource.mapClient_name _)
      fun _ hx => hx.mapClient _) ?_
    intro _
    refine bind ((bind (read _) fun a => awaitAnswer a).within d) ?_
    intro o
    split
    · exact bind (emit _) fun _ => .pure _
    · exact .pure _
    · exact .pure _

theorem runClose (r : ResourceId) (d : Instant) : Guest D P (runClose r d) := by
  refine read_bind ?_
  intro h hs
  split
  · next name s hr =>
    have hscript : P ∨ ∀ p, .panic p ∉ s.close :=
      hs.2.imp_right fun ht => ht.closes ⟨name, .scripted s⟩ (List.mem_of_getElem? hr) s rfl
    exact bind (say _ _) fun _ => bind (runScript _ hscript) fun _ => .pure _
  · exact closeServer r _ d
  · exact disconnect r _ d
  · exact .pure _

end Guest

end ServiceHost.Lifecycle
