import Mathlib.Data.List.Forall2
import Mathlib.Data.List.Perm.Subperm
import ServiceHost.Proofs.Lifecycle.Account
import ServiceHost.Proofs.Lifecycle.Life

/-! The reckoning at the end of a shutdown: no failure was noticed anywhere exactly when every start, every action
and every close was clean. -/

namespace ServiceHost.Lifecycle

variable {h h' k : Host} {s : Started} {d : Instant}

/-- Every start came back, without an error or closed. -/
def StartsClean (h : Host) : Prop :=
  ∀ r t, h.job? t = some (.start r .coordinator) → ∃ q, .came t q ∈ h.deeds ∧ Clean q

/-- Every action that was accepted had a task of its own and returned without an error. -/
def ActionsClean (h : Host) : Prop :=
  ∃ ts : List TaskId, ts.Pairwise (· < ·) ∧
    List.Forall₂ (fun a t => ∃ d e, h.Ran a t d (.returned (.ok ())) e) h.accepts ts

/-- Every resource that came up was closed, without an error or closed, and its start task then ended by itself. -/
def ClosesClean (h : Host) : Prop :=
  ∀ s, .up s ∈ h.doings →
    ∃ q v, .closed s (some q) ∈ h.doings ∧ Clean q ∧ h.outcome? s.task = some (.returned v)

/-! ## Failures, one by one -/

theorem Exit.failure?_eq_none {e : Exit} : e.failure? = none ↔ Clean e.result := by
  unfold failure? Clean
  split
  · next hr => simp [hr]
  · next err hr => simp [hr]

theorem exitFailures_eq_nil {e : Exit} : exitFailures e = [] ↔ Clean e.result := by
  unfold exitFailures Clean
  split
  · next hr => simp [hr]
  · next hr => simp [hr]
  · next err hne hr => simpa [hr] using hne

/-- Of a resource whose start returned only a clean close adds no failure. -/
theorem Verdict.eq_nil {fs : Failures} {l : List (Instant × Deed)} {q : Except ResourceError Unit}
    {v : Except Cause Unit} (m : Verdict k s d fs l) (hmem : .closed s (some q) ∈ l.map (·.2))
    (hq : Clean q) (ho : k.outcome? s.task = some (.returned v)) : fs = [] := by
  cases m with
  | skipped => cases hmem
  | stopped => rfl
  | panicked _ _ ho' => rw [ho] at ho'; cases ho'
  | tooSlow _ _ ho' => rw [ho] at ho'; cases ho'
  | @failed t u e _ he =>
    have hqe : q = .error e := by simpa using hmem
    rcases hq with hq | hq
    · rw [hqe] at hq; cases hq
    · rw [hqe] at hq
      cases hq
      exact absurd rfl he
  | cutOff => simp at hmem

/-- A verdict without a failure. -/
theorem Verdict.clean {l : List (Instant × Deed)} (m : Verdict k s d [] l) :
    ∃ q v, .closed s (some q) ∈ l.map (·.2) ∧ Clean q ∧ k.outcome? s.task = some (.returned v) := by
  cases m with
  | stopped _ hq ho => exact ⟨_, _, by simp, hq, ho⟩

theorem CloseSteps.mem {l : List (Instant × Deed)} {x : Deed} (hl : CloseSteps s d l)
    (hx : x ∈ l.map (·.2)) : x = .close s ∨ ∃ q, x = .closed s q := by
  cases hl with
  | skip => cases hx
  | close _ =>
    rcases List.mem_pair.1 hx with rfl | rfl
    · exact .inl rfl
    · exact .inr ⟨_, rfl⟩

/-- Whatever is done is done for one of the resources. -/
theorem CloseLog.mem {ss : List Started} {l : List (Instant × Deed)} {x : Deed} (hl : CloseLog d ss l)
    (hx : x ∈ l.map (·.2)) :
    ∃ s ∈ ss, x = .close s ∨ (∃ q, x = .closed s q) ∨ x = .settled s := by
  induction hl with
  | nil => cases hx
  | cons hs _ ih =>
    rw [List.map_append, List.map_cons, List.mem_append, List.mem_cons] at hx
    rcases hx with hx | rfl | hx
    · exact ⟨_, List.mem_cons_self, (hs.mem hx).imp_right .inl⟩
    · exact ⟨_, List.mem_cons_self, .inr (.inr rfl)⟩
    · obtain ⟨y, hy, he⟩ := ih hx
      exact ⟨y, List.mem_cons_of_mem _ hy, he⟩

namespace Verdicts

variable {ss : List Started} {fs : Failures} {l : List (Instant × Deed)}

theorem clean (m : Verdicts k d ss fs l) (hfs : fs = []) : ∀ x ∈ ss, ∃ q v,
    .closed x (some q) ∈ l.map (·.2) ∧ Clean q ∧ k.outcome? x.task = some (.returned v) := by
  induction m with
  | nil => exact nofun
  | cons v _ ih =>
    obtain ⟨rfl, rfl⟩ := List.append_eq_nil_iff.1 hfs
    intro x hx
    rw [List.map_append, List.map_cons]
    rcases List.mem_cons.1 hx with rfl | hx
    · obtain ⟨q, r, hmem, hq, ho⟩ := v.clean
      exact ⟨q, r, List.mem_append_left _ hmem, hq, ho⟩
    · obtain ⟨q, r, hmem, hq, ho⟩ := ih rfl x hx
      exact ⟨q, r, List.mem_append_right _ (List.mem_cons_of_mem _ hmem), hq, ho⟩

theorem eq_nil (m : Verdicts k d ss fs l) (hnodup : ss.Nodup) (hclean : ∀ x ∈ ss, ∃ q v,
    .closed x (some q) ∈ l.map (·.2) ∧ Clean q ∧ k.outcome? x.task = some (.returned v)) :
    fs = [] := by
  induction m with
  | nil => rfl
  | @cons s rest fs fs' l l' t v vs ih =>
    obtain ⟨hnew, hrest⟩ := List.nodup_cons.1 hnodup
    -- What is said of a resource is said in its own part of the log.
    have hsplit : ∀ {x q}, .closed x q ∈ (l ++ (t, .settled s) :: l').map (·.2) →
        .closed x q ∈ l.map (·.2) ∨ .closed x q ∈ l'.map (·.2) := by
      intro x q hmem
      simpa using hmem
    have hfirst : fs = [] := by
      obtain ⟨q, r, hmem, hq, ho⟩ := hclean s List.mem_cons_self
      rcases hsplit hmem with hmem | hmem
      · exact v.eq_nil hmem hq ho
      · obtain ⟨y, hy, he | ⟨_, he⟩ | he⟩ := vs.log.mem hmem <;> cases he
        exact absurd hy hnew
    have hlast : fs' = [] := ih hrest fun x hx => by
      obtain ⟨q, r, hmem, hq, ho⟩ := hclean x (List.mem_cons_of_mem _ hx)
      rcases hsplit hmem with hmem | hmem
      · obtain he | ⟨_, he⟩ := v.steps.mem hmem <;> cases he
        exact absurd hx hnew
      · exact ⟨q, r, hmem, hq, ho⟩
    rw [hfirst, hlast]
    rfl

end Verdicts

/-! ## The turns of the actions -/

theorem Host.Ran.unique {a b : Action} {t : TaskId} {d d' e e' : Instant} {o o' : Outcome}
    (r : h.Ran a t d o e) (r' : h.Ran b t d' o' e') : o = o' := by
  obtain ⟨x, hx, -, -, he⟩ := r
  obtain ⟨y, hy, -, -, he'⟩ := r'
  obtain rfl : x = y := Option.some.inj (hx.symm.trans hy)
  exact congrArg Prod.snd (Option.some.inj (he.symm.trans he'))

/-- An action that had a task on which it returned without an error had a clean turn. -/
theorem Turn.Holds.outcome_ok {x : Turn} {t : TaskId} {a : Action} {d' e : Instant} (hx : x.Holds h d)
    (ht : x.task? = some t) (hr : h.Ran a t d' (.returned (.ok ())) e) : x.outcome = .ok := by
  cases x with
  | done b u => rfl
  | failed b u cause =>
    cases ht
    obtain ⟨e', hf | ⟨p, -, hf⟩⟩ := hx <;> cases hf.unique hr
  | cut b u =>
    cases ht
    cases Host.Ran.unique hx hr
  | skipped b => cases ht

section
variable {turns : List Turn} (hactions : turns.map Turn.action = h.accepts)
  (hholds : ∀ x ∈ turns, x.Holds h d)
include hactions hholds

theorem actionsClean_of_turns (horder : (turns.filterMap Turn.task?).Pairwise (· < ·))
    (hok : ∀ x ∈ turns, x.outcome = .ok) : ActionsClean h := by
  refine ⟨_, horder, ?_⟩
  rw [← hactions]
  clear hactions horder
  induction turns with
  | nil => exact .nil
  | cons x rest ih =>
    have hrest := ih (fun y hy => hholds y (List.mem_cons_of_mem _ hy))
      fun y hy => hok y (List.mem_cons_of_mem _ hy)
    have hx := hok x List.mem_cons_self
    cases x with
    | done a t =>
      obtain ⟨e, hr⟩ := hholds _ List.mem_cons_self
      exact .cons ⟨d, e, hr⟩ hrest
    | failed a t cause => cases hx
    | cut a t => cases hx
    | skipped a => cases hx

/-- There are as many tasks of actions as actions, so every turn had one. -/
theorem turns_of_actionsClean
    (htasks : ∀ t a e, h.job? t = some (.action a e) → t ∈ turns.filterMap Turn.task?)
    (hclean : ActionsClean h) : ∀ x ∈ turns, x.outcome = .ok := by
  obtain ⟨ts, hts, hran⟩ := hclean
  have hmem : ∀ t ∈ ts, ∃ a d e, h.Ran a t d (.returned (.ok ())) e := by
    intro t ht
    obtain ⟨i, hi, rfl⟩ := List.getElem_of_mem ht
    obtain ⟨d, e, hr⟩ := hran.get (by rwa [hran.length_eq]) hi
    exact ⟨_, d, e, hr⟩
  have hsub : ts.Subperm (turns.filterMap Turn.task?) := by
    refine List.subperm_of_subset (hts.imp Nat.ne_of_lt) ?_
    intro t ht
    obtain ⟨a, d, e, b, hb, hj, -⟩ := hmem t ht
    exact htasks t a d (Option.map_eq_some_iff.2 ⟨b, hb, hj⟩)
  have hlen : turns.length = ts.length := by
    rw [← hran.length_eq, ← hactions, List.length_map]
  have hle : (turns.filterMap Turn.task?).length ≤ ts.length := hlen ▸ List.length_filterMap_le ..
  have hperm := hsub.perm_of_length_le hle
  have hall := List.filterMap_length_eq_length.1 (hperm.length_eq.symm.trans hlen.symm)
  intro x hx
  obtain ⟨t, ht⟩ := Option.isSome_iff_exists.1 (hall x hx)
  obtain ⟨a, d', e, hr⟩ := hmem t (hperm.mem_iff.2 (List.mem_filterMap.2 ⟨x, hx, ht⟩))
  exact (hholds x hx).outcome_ok ht hr

end

/-! ## All of it together -/

/-- What is known in `h`, at the end of a shutdown whose closes were over in `k`, of the places where a failure
shows: exits that were `heard` before, the `turns` of the actions, the closes, and exits that were queued since. -/
structure Reckoning (heard : List Exit) (turns : List Turn) (ss : List Started) (closed : Failures)
    (k h : Host) : Prop where
  before : Proper k
  after : Proper h
  grows : k.Grows h
  ended : k.StartsEnded
  starts : startsOf k.doings = ss ∧ startsOf h.doings = ss
  up : ∀ s ∈ ss, .up s ∈ k.doings
  exits : k.arrivals = heard ++ k.exits
  closes : ∃ d l, Verdicts k d ss closed l ∧ ∀ s q, .closed s q ∈ h.doings ↔ .closed s q ∈ l.map (·.2)
  actions : turns.map Turn.action = h.accepts
  holds : ∃ d, ∀ x ∈ turns, x.Holds h d
  order : (turns.filterMap Turn.task?).Pairwise (· < ·)
  tasks : ∀ t a e, h.job? t = some (.action a e) → t ∈ turns.filterMap Turn.task?

namespace Reckoning

variable {heard : List Exit} {turns : List Turn} {ss : List Started} {closed : Failures}

/-- The starts are the same before and after. -/
theorem job?_start (m : Reckoning heard turns ss closed k h) {r : ResourceId} {t : TaskId}
    (hj : h.job? t = some (.start r .coordinator)) :
    (⟨r, t⟩ : Started) ∈ ss ∧ k.job? t = some (.start r .coordinator) := by
  have hstart : .start ⟨r, t⟩ ∈ h.doings := Host.mem_doings.2 ⟨m.after.books.started.1 hj, rfl⟩
  have hmem : (⟨r, t⟩ : Started) ∈ ss := m.starts.2 ▸ mem_startsOf.2 hstart
  have hold : .start ⟨r, t⟩ ∈ k.doings := mem_startsOf.1 (m.starts.1.symm ▸ hmem)
  exact ⟨hmem, m.before.books.started.2 (Host.mem_doings.1 hold).1⟩

theorem nodup (m : Reckoning heard turns ss closed k h) : ss.Nodup := by
  have hd := m.before.distinct
  rw [m.starts.1] at hd
  exact List.Pairwise.of_map _ (fun _ _ hne e => hne (congrArg _ e)) hd

/-- Every start that came back is known from the report of its task or from an exit. -/
theorem startsClean (m : Reckoning heard turns ss closed k h) (hclosed : closed = [])
    (hexits : ∀ e ∈ k.arrivals, Clean e.result) : StartsClean h := by
  intro r t hj
  obtain ⟨hmem, hjk⟩ := m.job?_start hj
  obtain ⟨d, l, hv, -⟩ := m.closes
  obtain ⟨-, v, -, -, ho⟩ := hv.clean hclosed _ hmem
  obtain ⟨q, hcame⟩ := m.before.books.came hjk ho
  refine ⟨q, m.grows.mem_deeds hcame, ?_⟩
  rcases m.before.books.told hjk hcame with hready | ⟨name, hexit⟩
  · have hup := m.before.books.up (Host.mem_doings.1 (m.up _ hmem)).1
    exact .inl (Option.some.inj (hready.symm.trans hup))
  · exact hexits _ (Host.mem_arrivals.2 hexit)

theorem exits_clean (m : Reckoning heard turns ss closed k h) (hs : StartsClean h) :
    ∀ e ∈ k.arrivals, Clean e.result := by
  intro e he
  obtain ⟨r, t, hj, hcame⟩ := m.before.books.exit (Host.mem_arrivals.1 he)
  obtain ⟨q, hcame', hq⟩ := hs r t (m.grows.job? hj)
  rwa [m.after.books.once (m.grows.mem_deeds hcame) hcame']

theorem closed_eq_nil_iff (m : Reckoning heard turns ss closed k h) : closed = [] ↔ ClosesClean h := by
  obtain ⟨d, l, hv, hcloses⟩ := m.closes
  constructor
  · intro hclosed s hup
    have hmem : s ∈ ss := by
      obtain ⟨before, after, he⟩ := List.append_of_mem hup
      have hstart : s ∈ startsOf before := m.after.orderly before _ after he
      rw [← m.starts.2, he, startsOf_append]
      exact List.mem_append_left _ hstart
    obtain ⟨q, v, hl, hq, ho⟩ := hv.clean hclosed s hmem
    exact ⟨q, v, (hcloses s _).2 hl, hq, m.grows.outcome? ho⟩
  · intro hc
    refine hv.eq_nil m.nodup ?_
    intro s hmem
    obtain ⟨q, v, hl, hq, ho⟩ := hc s (m.grows.mem_doings (m.up s hmem))
    refine ⟨q, v, (hcloses s _).1 hl, hq, ?_⟩
    have hstart : .start s ∈ k.doings := mem_startsOf.1 (m.starts.1.symm ▸ hmem)
    have hended := m.ended s.task s.resource (m.before.books.started.2 (Host.mem_doings.1 hstart).1)
    obtain ⟨o, hk⟩ := Option.isSome_iff_exists.1 hended
    rw [hk, ← ho, m.grows.outcome? hk]

theorem turns_ok_iff (m : Reckoning heard turns ss closed k h) :
    turns.flatMap Turn.failures = [] ↔ ActionsClean h := by
  obtain ⟨d, hholds⟩ := m.holds
  rw [failures_eq_nil]
  exact ⟨actionsClean_of_turns m.actions hholds m.order, turns_of_actionsClean m.actions hholds m.tasks⟩

/-- No failure shows anywhere exactly when nothing failed. -/
theorem clean_iff (m : Reckoning heard turns ss closed k h) :
    heard.findSome? Exit.failure? = none ∧
        turns.flatMap Turn.failures ++ closed ++ k.exits.flatMap exitFailures = [] ↔
      StartsClean h ∧ ActionsClean h ∧ ClosesClean h := by
  have hexits : (∀ e ∈ k.arrivals, Clean e.result) ↔
      heard.findSome? Exit.failure? = none ∧ k.exits.flatMap exitFailures = [] := by
    simp [m.exits, List.findSome?_eq_none_iff, List.flatMap_eq_nil_iff, Exit.failure?_eq_none,
      exitFailures_eq_nil, or_imp, forall_and]
  rw [List.append_eq_nil_iff, List.append_eq_nil_iff, m.turns_ok_iff, m.closed_eq_nil_iff]
  constructor
  · rintro ⟨hheard, ⟨hactions, hcloses⟩, hqueued⟩
    exact ⟨m.startsClean (m.closed_eq_nil_iff.2 hcloses) (hexits.2 ⟨hheard, hqueued⟩), hactions, hcloses⟩
  · rintro ⟨hstarts, hactions, hcloses⟩
    obtain ⟨hheard, hqueued⟩ := hexits.1 (m.exits_clean hstarts)
    exact ⟨hheard, ⟨hactions, hcloses⟩, hqueued⟩

end Reckoning

end ServiceHost.Lifecycle
