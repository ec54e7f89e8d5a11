import ServiceHost.Proofs.Lifecycle.Run

/-! Moments of a run: runs are put together from runs of the parts, and cut off and taken up again. `Finishes` says
that a routine that is left alone comes to its end, without a wait for time or for others. -/

namespace ServiceHost.Lifecycle

open Relation Routine

variable {α β : Type} {E : Host → Host → Prop} {h h' h₁ g : Host}

/-! ## Runs one after another -/

/-- How far a run has come once panics are results. -/
def Progress.attempt : Progress α → Progress (Except Payload α)
  | .going rest => .going rest.attempt
  | .returned a => .returned (.ok a)
  | .panicked p => .returned (.error p)

theorem Run.attempt {r : Routine α} {out : Progress α} (hr : Run E r h out h') :
    Run E r.attempt h out.attempt h' := by
  induction hr with
  | going r h => exact .going _ h
  | done a h => exact .done _ h
  | panic p h => exact .done _ h
  | step ho _ ih => exact .step ho ih
  | waiting hw => exact .waiting hw
  | wait hw hi _ ih => exact .wait hw hi ih
  | serving hw => exact .serving hw
  | handle hw hi hs _ ih => exact .handle hw hi hs ih
  | leave hw hi hs ho _ ih => exact .leave hw hi hs ho ih

theorem attempt_bind (r : Routine α) (k : α → Routine β) :
    (r >>= k).attempt = r.attempt >>= fun
      | .ok a => (k a).attempt
      | .error p => pure (.error p) := by
  show (r.bind k).attempt = r.attempt.bind _
  induction r with
  | done a => rfl
  | panic p => rfl
  | step f next ih => exact congrArg (Routine.step f) (funext ih)
  | wait s next ih => exact congrArg (Routine.wait s) (funext ih)
  | serve s handle next ih => exact congrArg (Routine.serve s handle) (funext ih)

/-- What comes next begins where a run returned. -/
theorem Run.andThen {r : Routine α} {k : α → Routine β} {a : α} {out : Progress β}
    (hr : Run E r h (.returned a) h₁) (hk : Run E (k a) h₁ out h') : Run E (r >>= k) h out h' := by
  show Run E (r.bind k) h out h'
  generalize ho : Progress.returned a = o at hr
  induction hr with
  | going => cases ho
  | done a h => cases ho; exact hk
  | panic => cases ho
  | step hs _ ih => exact .step hs (ih hk ho)
  | waiting => cases ho
  | wait hw hi _ ih => exact .wait hw hi (ih hk ho)
  | serving => cases ho
  | handle hw hi hs _ ih => exact .handle hw hi hs (ih hk ho)
  | leave hw hi hs hs' _ ih => exact .leave hw hi hs hs' (ih hk ho)

/-- While the first part is under way, so is the whole. -/
theorem Run.before {r rest : Routine α} (hr : Run E r h (.going rest) g) (k : α → Routine β) :
    Run E (r >>= k) h (.going (rest >>= k)) g := by
  show Run E (r.bind k) h (.going (rest.bind k)) g
  generalize ho : Progress.going rest = o at hr
  induction hr with
  | going r h => cases ho; exact .going _ h
  | done => cases ho
  | panic => cases ho
  | step hs _ ih => exact .step hs (ih ho)
  | waiting hw => cases ho; exact .waiting hw
  | wait hw hi _ ih => exact .wait hw hi (ih ho)
  | serving hw => cases ho; exact .serving hw
  | handle hw hi hs _ ih => exact .handle hw hi hs (ih ho)
  | leave hw hi hs hs' _ ih => exact .leave hw hi hs hs' (ih ho)

/-- What is left of a routine goes on where its run was cut off. -/
theorem Run.trans {r rest : Routine α} {out : Progress α} (hr : Run E r h (.going rest) g)
    (hrest : Run E rest g out h') : Run E r h out h' := by
  generalize ho : Progress.going rest = o at hr
  induction hr with
  | going r h => cases ho; exact hrest
  | done => cases ho
  | panic => cases ho
  | step hs _ ih => exact .step hs (ih hrest ho)
  | waiting hw =>
    cases ho
    cases hrest with
    | going => exact .waiting hw
    | waiting hw' => exact .waiting (hw.trans hw')
    | wait hw' hi hr => exact .wait (hw.trans hw') hi hr
  | wait hw hi _ ih => exact .wait hw hi (ih hrest ho)
  | serving hw =>
    cases ho
    cases hrest with
    | going => exact .serving hw
    | serving hw' => exact .serving (hw.trans hw')
    | handle hw' hi hs hr => exact .handle (hw.trans hw') hi hs hr
    | leave hw' hi hs hs' hr => exact .leave (hw.trans hw') hi hs hs' hr
  | handle hw hi hs _ ih => exact .handle hw hi hs (ih hrest ho)
  | leave hw hi hs hs' _ ih => exact .leave hw hi hs hs' (ih hrest ho)

/-- What a routine returns is what a run of it returned. -/
theorem meets_run_of (r : Routine α) (h : Host) :
    r.Meets { rely := E } (fun a h' => Run E r h (.returned a) h') h := by
  induction r generalizing h with
  | done a => exact ⟨trivial, .done a h⟩
  | panic p => exact ⟨trivial, trivial⟩
  | step f next ih =>
    refine ⟨trivial, trivial, fun h₁ ho => ?_⟩
    exact (ih h h₁).mono fun _ _ _ hr => .step ho hr
  | wait s next ih =>
    refine ⟨False.elim, fun h₁ hw => ⟨trivial, fun i hi => ?_⟩⟩
    exact (ih i h₁).mono fun _ _ _ hr => .wait hw hi hr
  | serve s handle next ih =>
    -- The rounds so far lead from `h` to where the next one begins.
    refine ⟨trivial, False.elim,
      fun k => ∀ {out h'}, Run E (.serve s handle next) k out h' → Run E (.serve s handle next) h out h',
      id, fun k h₁ hk hw => ⟨trivial, fun i hi => ⟨trivial, fun hs => ?_, fun hs h₂ ho => ?_⟩⟩⟩
    · exact fun hr => hk (.handle hw hi hs hr)
    · exact (ih i h₂).mono fun _ _ _ hr => hk (.leave hw hi hs ho hr)

theorem Routine.Returns.imp {I K : Host → Prop} {Q Q' : α → Host → Prop} {r : Routine α} (m : r.Returns E K h Q)
    (always : ∀ {g}, K g → I g) (result : ∀ a h', K h' → Q a h' → Q' a h') : r.Returns E I h Q' :=
  (Meets.mono m result).weaken id (fun _ => id) always id id fun _ => id

/-- What a routine returns is returned by a run. -/
theorem Routine.Returns.and_run {I : Host → Prop} {Q : α → Host → Prop} {r : Routine α} (m : r.Returns E I h Q) :
    r.Returns E I h fun a h' => Q a h' ∧ Run E r h (.returned a) h' :=
  (Meets.and m (meets_run_of r h) id).weaken id (fun _ => And.left) And.left id And.left fun _ => And.left

/-! ## Left alone -/

/-- Nobody else moves: the routine goes on, whichever of the signals that hold it picks, and comes to its end. -/
inductive Finishes (Q : α → Host → Prop) : Routine α → Host → Prop where
  | done {a h} : Q a h → Finishes Q (.done a) h
  | step {f next h} : Finishes Q (next h) (f h) → Finishes Q (.step f next) h
  | wait {s next h} : (∃ i, Picks s h i) → (∀ i, Picks s h i → Finishes Q (next i) h) →
      Finishes Q (.wait s next) h
  | serve {s handle next h} : (∃ i, Picks s h i) →
      (∀ i, Picks s h i → (handle i h).2 = false →
        Finishes Q (.serve s handle next) (handle i h).1) →
      (∀ i, Picks s h i → (handle i h).2 = true → Finishes Q (next i) (handle i h).1) →
      Finishes Q (.serve s handle next) h

namespace Finishes

variable {Q : α → Host → Prop} {r : Routine α}

theorem mono {Q' : α → Host → Prop} (hQ : ∀ a h', Q a h' → Q' a h') (hf : Finishes Q r h) :
    Finishes Q' r h := by
  induction hf with
  | done hq => exact .done (hQ _ _ hq)
  | step _ ih => exact .step ih
  | wait hi _ ih => exact .wait hi ih
  | serve hi _ _ ihs ihl => exact .serve hi ihs ihl

theorem bind {Q' : β → Host → Prop} {k : α → Routine β} (hf : Finishes Q r h)
    (hk : ∀ a h', Q a h' → Finishes Q' (k a) h') : Finishes Q' (r >>= k) h := by
  show Finishes Q' (r.bind k) h
  induction hf with
  | done hq => exact hk _ _ hq
  | step _ ih => exact .step ih
  | wait hi _ ih => exact .wait hi ih
  | serve hi _ _ ihs ihl => exact .serve hi ihs ihl

/-- What holds however the others behave holds when they do nothing. -/
theorem and_meets {c : Terms} {Q' : α → Host → Prop} (hf : Finishes Q r h) (m : r.Meets c Q' h) :
    Finishes (fun a h' => Q a h' ∧ Q' a h') r h := by
  induction hf with
  | done hq => exact .done ⟨hq, m.2⟩
  | step _ ih => exact .step (ih (m.2.2 _ .refl))
  | wait hi _ ih => exact .wait hi fun i hp => ih i hp ((m.2 _ .refl).2 i hp)
  | serve hi _ _ ihs ihl =>
    obtain ⟨hl, ht, J, hJ, hm⟩ := m
    refine .serve hi (fun i hp hs => ihs i hp hs ?_) fun i hp hs => ihl i hp hs ?_
    · exact ⟨hl, ht, J, ((hm _ _ hJ .refl).2 i hp).2.1 hs, hm⟩
    · exact ((hm _ _ hJ .refl).2 i hp).2.2 hs _ .refl

/-- Coming to the end alone is one of the runs, whatever else the others might do. -/
theorem exists_run (hf : Finishes Q r h) : ∃ a h', Run E r h (.returned a) h' ∧ Q a h' := by
  induction hf with
  | done hq => exact ⟨_, _, .done _ _, hq⟩
  | step _ ih =>
    obtain ⟨a, h', hr, hq⟩ := ih
    exact ⟨a, h', .step .refl hr, hq⟩
  | wait hi _ ih =>
    obtain ⟨i, hi⟩ := hi
    obtain ⟨a, h', hr, hq⟩ := ih i hi
    exact ⟨a, h', .wait .refl hi hr, hq⟩
  | @serve s handle next h hi _ _ ihs ihl =>
    obtain ⟨i, hi⟩ := hi
    cases hs : (handle i h).2 with
    | false =>
      obtain ⟨a, h', hr, hq⟩ := ihs i hi hs
      exact ⟨a, h', .handle .refl hi hs hr, hq⟩
    | true =>
      obtain ⟨a, h', hr, hq⟩ := ihl i hi hs
      exact ⟨a, h', .leave .refl hi hs .refl hr, hq⟩

end Finishes

end ServiceHost.Lifecycle
