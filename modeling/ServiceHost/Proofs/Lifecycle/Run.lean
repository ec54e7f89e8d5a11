import Mathlib.Logic.Relation
import Mathlib.Data.Nat.Find
import ServiceHost.Lifecycle.Routine

/-! Runs of a routine while others act on the same host. The others may take steps between any two steps of
the routine; the clock moves only while the routine waits, and not past a time that it waits for.

`Run` lists what can happen. `Meets` says that a routine keeps to its terms however the others behave, with
one clause for each form of a routine; `Meets.of_run` reads it as a statement about every run, and
`Meets.exists_run` shows that a routine whose waits are bounded has a run in which it returns. -/

namespace ServiceHost.Lifecycle

open Relation

/-- Any number of steps by others. -/
abbrev Others (E : Host → Host → Prop) : Host → Host → Prop := ReflTransGen E

/-- The clock moves on, but not past a time that is waited for. -/
def Tick (signals : List Signal) (h h' : Host) : Prop :=
  ∃ t, h.now ≤ t ∧ (∀ d, .due d ∈ signals → h.now < t → t ≤ d) ∧ h' = { h with now := t }

/-- What can happen while a routine waits. -/
abbrev Waits (E : Host → Host → Prop) (signals : List Signal) : Host → Host → Prop :=
  ReflTransGen fun h h' => E h h' ∨ Tick signals h h'

/-- Any signal that holds may be the one that a wait ends with, but a time is looked at after the signals
before it. -/
def Picks (signals : List Signal) (h : Host) (i : Nat) : Prop :=
  ∃ s, signals[i]? = some s ∧ s.holds h = true ∧
    ∀ d, s = .due d → ∀ j < i, ∀ s', signals[j]? = some s' → s'.holds h = false

theorem Others.mono {E E' : Host → Host → Prop} {h h' : Host} (hE : ∀ {h h'}, E h h' → E' h h')
    (ho : Others E h h') : Others E' h h' :=
  ReflTransGen.mono (fun _ _ => hE) _ _ ho

theorem Waits.mono {E E' : Host → Host → Prop} {s : List Signal} {h h' : Host}
    (hE : ∀ {h h'}, E h h' → E' h h') (hw : Waits E s h h') : Waits E' s h h' :=
  ReflTransGen.mono (fun _ _ => Or.imp_left hE) _ _ hw

/-- What every step of the others keeps, any number of them keeps. -/
theorem Others.preserve {E : Host → Host → Prop} {K : Host → Prop} {h h' : Host}
    (hE : ∀ {a b}, E a b → K a → K b) (ho : Others E h h') (hk : K h) : K h' := by
  induction ho with
  | refl => exact hk
  | tail _ he ih => exact hE he ih

/-- What the steps of the others and the clock keep, a wait keeps. -/
theorem Waits.preserve {E : Host → Host → Prop} {K : Host → Prop} {s : List Signal} {h h' : Host}
    (hE : ∀ {a b}, E a b → K a → K b) (htick : ∀ {a b}, Tick s a b → K a → K b) (hw : Waits E s h h')
    (hk : K h) : K h' := by
  induction hw with
  | refl => exact hk
  | tail _ he ih => exact he.elim (hE · ih) (htick · ih)

/-- The first signal that holds may be picked. -/
theorem picks_of_first? {s : List Signal} {h : Host} {i : Nat} (hi : Signal.first? h s = some i) :
    Picks s h i := by
  obtain ⟨hlt, hholds, hbefore⟩ := List.findIdx?_eq_some_iff_getElem.1 hi
  refine ⟨s[i], List.getElem?_eq_getElem hlt, hholds, fun _ _ j hj s' hs' => ?_⟩
  obtain ⟨hjlt, rfl⟩ := List.getElem?_eq_some_iff.1 hs'
  simpa using hbefore j hj

theorem exists_picks {s : List Signal} {h : Host} (hs : ∃ x ∈ s, x.holds h = true) :
    ∃ i, Picks s h i := by
  have hsome : (Signal.first? h s).isSome := by
    simpa [Signal.first?, List.findIdx?_isSome] using hs
  obtain ⟨i, hi⟩ := Option.isSome_iff_exists.1 hsome
  exact ⟨i, picks_of_first? hi⟩

/-- Something is waited for until a deadline. -/
theorem picks_or_due {x : Signal} {d : Instant} {h : Host} {i : Nat} (hp : Picks [x, .due d] h i) :
    i = 0 ∧ x.holds h = true ∨ i = 1 ∧ x.holds h = false ∧ d ≤ h.now := by
  obtain ⟨s, hs, hholds, hbefore⟩ := hp
  match i with
  | 0 => cases hs; exact .inl ⟨rfl, hholds⟩
  | 1 =>
    cases hs
    exact .inr ⟨rfl, hbefore d rfl 0 Nat.zero_lt_one _ rfl, of_decide_eq_true hholds⟩

/-- A task is waited for until a deadline. -/
theorem picks_ended_or_due {t : TaskId} {d : Instant} {h : Host} {i : Nat}
    (hp : Picks [.ended t, .due d] h i) :
    i = 0 ∧ h.isEnded t = true ∨ i = 1 ∧ h.isEnded t = false ∧ d ≤ h.now :=
  picks_or_due hp

/-- A start is waited for until a deadline or a stop. -/
theorem picks_start {t : TaskId} {d : Instant} {h : Host} {i : Nat}
    (hp : Picks [.reported t, .due d, .triggered] h i) :
    i = 0 ∧ (h.readiness t = none → h.isEnded t = true) ∨
      i = 1 ∧ h.readiness t = none ∧ h.isEnded t = false ∧ d ≤ h.now ∨
      i = 2 ∧ h.trigger.reason.isSome = true := by
  obtain ⟨s, hs, hholds, hbefore⟩ := hp
  match i with
  | 0 =>
    cases hs
    exact .inl ⟨rfl, fun hnone => by simpa [Signal.holds, hnone] using hholds⟩
  | 1 =>
    -- At the deadline the report is looked at first, and there is none.
    cases hs
    have hsilent := hbefore d rfl 0 Nat.zero_lt_one _ rfl
    simp only [Signal.holds, Bool.or_eq_false_iff, Option.isSome_eq_false_iff,
      Option.isNone_iff_eq_none] at hsilent
    exact .inr (.inl ⟨rfl, hsilent.1, hsilent.2, of_decide_eq_true hholds⟩)
  | 2 =>
    cases hs
    exact .inr (.inr ⟨rfl, hholds⟩)

/-- How far a run has come: what is left of the routine, or how it ended. -/
inductive Progress (α : Type) where
  | going (rest : Routine α)
  | returned (a : α)
  | panicked (p : Payload)

/-- The runs of a routine, each cut off anywhere or carried to its end. -/
inductive Run (E : Host → Host → Prop) {α : Type} :
    Routine α → Host → Progress α → Host → Prop where
  | going (r h) : Run E r h (.going r) h
  | done (a h) : Run E (.done a) h (.returned a) h
  | panic (p h) : Run E (.panic p) h (.panicked p) h
  | step {f next h h₁ out h'} : Others E (f h) h₁ → Run E (next h) h₁ out h' →
      Run E (.step f next) h out h'
  | waiting {s next h h'} : Waits E s h h' → Run E (.wait s next) h (.going (.wait s next)) h'
  | wait {s next h h₁ i out h'} : Waits E s h h₁ → Picks s h₁ i → Run E (next i) h₁ out h' →
      Run E (.wait s next) h out h'
  | serving {s handle next h h'} : Waits E s h h' →
      Run E (.serve s handle next) h (.going (.serve s handle next)) h'
  | handle {s handle next h h₁ i out h'} : Waits E s h h₁ → Picks s h₁ i →
      (handle i h₁).2 = false → Run E (.serve s handle next) (handle i h₁).1 out h' →
      Run E (.serve s handle next) h out h'
  | leave {s handle next h h₁ h₂ i out h'} : Waits E s h h₁ → Picks s h₁ i →
      (handle i h₁).2 = true → Others E (handle i h₁).1 h₂ → Run E (next i) h₂ out h' →
      Run E (.serve s handle next) h out h'

/-- What happens among others who do less may happen among others who do more. -/
theorem Run.mono {E E' : Host → Host → Prop} {α : Type} {r : Routine α} {h h' : Host} {out : Progress α}
    (hE : ∀ {a b}, E a b → E' a b) (hr : Run E r h out h') : Run E' r h out h' := by
  induction hr with
  | going r h => exact .going r h
  | done a h => exact .done a h
  | panic p h => exact .panic p h
  | step ho _ ih => exact .step (ho.mono hE) ih
  | waiting hw => exact .waiting (hw.mono hE)
  | wait hw hi _ ih => exact .wait (hw.mono hE) hi ih
  | serving hw => exact .serving (hw.mono hE)
  | handle hw hi hs _ ih => exact .handle (hw.mono hE) hi hs ih
  | leave hw hi hs ho _ ih => exact .leave (hw.mono hE) hi hs (ho.mono hE) ih

/-- The terms that a routine keeps to: what it relies on and what it guarantees of single steps, what
holds at every moment, whether every wait is bounded, whether it may serve rounds without a bound on
their number, and where it may panic. -/
structure Terms where
  rely : Host → Host → Prop
  guar : Host → Host → Prop := fun _ _ => True
  always : Host → Prop := fun _ => True
  timely : Prop := False
  loops : Prop := True
  panics : Host → Prop := fun _ => True

/-- A trigger puts an end to the rounds. -/
def EndsByTrigger (signals : List Signal) (handle : Nat → Host → Host × Bool) : Prop :=
  ∃ i, signals[i]? = some .triggered ∧ ∀ h, (handle i h).2 = true

namespace Routine

variable {α β : Type} {c : Terms}

/-- The routine keeps to its terms, and when it returns the result and the host satisfy `Q`. The rounds of
`serve` are covered by an invariant. A wait is bounded by a time, rounds are bounded by a trigger. -/
def Meets (c : Terms) (Q : α → Host → Prop) : Routine α → Host → Prop
  | .done a, h => c.always h ∧ Q a h
  | .panic _, h => c.always h ∧ c.panics h
  | .step f next, h =>
    c.always h ∧ c.guar h (f h) ∧ ∀ h', Others c.rely (f h) h' → (next h).Meets c Q h'
  | .wait s next, h =>
    (c.timely → ∃ d, .due d ∈ s) ∧
      ∀ h', Waits c.rely s h h' → c.always h' ∧ ∀ i, Picks s h' i → (next i).Meets c Q h'
  | .serve s handle next, h =>
    c.loops ∧ (c.timely → EndsByTrigger s handle) ∧ ∃ J : Host → Prop, J h ∧
      ∀ h₁ h', J h₁ → Waits c.rely s h₁ h' → c.always h' ∧ ∀ i, Picks s h' i →
        c.guar h' (handle i h').1 ∧
          ((handle i h').2 = false → J (handle i h').1) ∧
          ((handle i h').2 = true →
            ∀ h₂, Others c.rely (handle i h').1 h₂ → (next i).Meets c Q h₂)

/-- However the others behave, the routine returns, with `I` at every moment and `Q` at the end. -/
def Returns (E : Host → Host → Prop) (I : Host → Prop) (r : Routine α) (h : Host)
    (Q : α → Host → Prop) : Prop :=
  r.Meets { rely := E, always := I, timely := True, loops := False, panics := fun _ => False } Q h

theorem Meets.always {Q : α → Host → Prop} {r : Routine α} {h : Host} (m : r.Meets c Q h) :
    c.always h := by
  cases r with
  | done a => exact m.1
  | panic p => exact m.1
  | step f next => exact m.1
  | wait s next => exact (m.2 h .refl).1
  | serve s handle next =>
    obtain ⟨-, -, J, hJ, hm⟩ := m
    exact (hm h h hJ .refl).1

theorem Meets.mono {Q Q' : α → Host → Prop} {r : Routine α} {h : Host} (m : r.Meets c Q h)
    (hQ : ∀ a h', c.always h' → Q a h' → Q' a h') : r.Meets c Q' h := by
  induction r generalizing h with
  | done a => exact ⟨m.1, hQ a h m.1 m.2⟩
  | panic p => exact m
  | step f next ih => exact ⟨m.1, m.2.1, fun h' ho => ih h (m.2.2 h' ho)⟩
  | wait s next ih =>
    exact ⟨m.1, fun h' hw => ⟨(m.2 h' hw).1, fun i hi => ih i ((m.2 h' hw).2 i hi)⟩⟩
  | serve s handle next ih =>
    obtain ⟨hl, ht, J, hJ, hm⟩ := m
    refine ⟨hl, ht, J, hJ, fun h₁ h' hj hw => ⟨(hm h₁ h' hj hw).1, ?_⟩⟩
    intro i hi
    obtain ⟨hg, hstay, hleave⟩ := (hm h₁ h' hj hw).2 i hi
    exact ⟨hg, hstay, fun hs h₂ ho => ih i (hleave hs h₂ ho)⟩

theorem Meets.bind {Q : β → Host → Prop} {r : Routine α} {k : α → Routine β} {h : Host}
    (m : r.Meets c (fun a h' => (k a).Meets c Q h') h) : (r.bind k).Meets c Q h := by
  induction r generalizing h with
  | done a => exact m.2
  | panic p => exact m
  | step f next ih => exact ⟨m.1, m.2.1, fun h' ho => ih h (m.2.2 h' ho)⟩
  | wait s next ih =>
    exact ⟨m.1, fun h' hw => ⟨(m.2 h' hw).1, fun i hi => ih i ((m.2 h' hw).2 i hi)⟩⟩
  | serve s handle next ih =>
    obtain ⟨hl, ht, J, hJ, hm⟩ := m
    refine ⟨hl, ht, J, hJ, fun h₁ h' hj hw => ⟨(hm h₁ h' hj hw).1, ?_⟩⟩
    intro i hi
    obtain ⟨hg, hstay, hleave⟩ := (hm h₁ h' hj hw).2 i hi
    exact ⟨hg, hstay, fun hs h₂ ho => ih i (hleave hs h₂ ho)⟩

/-- A routine is followed by another: what the first ends with is where the second begins. -/
theorem Meets.andThen {R : α → Host → Prop} {Q : β → Host → Prop} {r : Routine α}
    {k : α → Routine β} {h : Host} (m : r.Meets c R h)
    (hk : ∀ a h', c.always h' → R a h' → (k a).Meets c Q h') : (r >>= k).Meets c Q h :=
  Meets.bind (m.mono hk)

/-- Terms that ask for less. -/
theorem Meets.weaken {k : Terms} {Q : α → Host → Prop} {r : Routine α} {h : Host}
    (m : r.Meets c Q h) (hrely : ∀ {h h'}, k.rely h h' → c.rely h h')
    (hguar : ∀ {h h'}, c.always h → c.guar h h' → k.guar h h')
    (halways : ∀ {h}, c.always h → k.always h) (htimely : k.timely → c.timely)
    (hloops : c.loops → k.loops) (hpanics : ∀ {h}, c.always h → c.panics h → k.panics h) :
    r.Meets k Q h := by
  induction r generalizing h with
  | done a => exact ⟨halways m.1, m.2⟩
  | panic p => exact ⟨halways m.1, hpanics m.1 m.2⟩
  | step f next ih =>
    exact ⟨halways m.1, hguar m.1 m.2.1, fun h' ho => ih h (m.2.2 h' (Others.mono hrely ho))⟩
  | wait s next ih =>
    refine ⟨fun ht => m.1 (htimely ht), ?_⟩
    intro h' hw
    obtain ⟨ha, hn⟩ := m.2 h' (Waits.mono hrely hw)
    exact ⟨halways ha, fun i hi => ih i (hn i hi)⟩
  | serve s handle next ih =>
    obtain ⟨hl, ht, J, hJ, hm⟩ := m
    refine ⟨hloops hl, fun hk => ht (htimely hk), J, hJ, ?_⟩
    intro h₁ h' hj hw
    obtain ⟨ha, hn⟩ := hm h₁ h' hj (Waits.mono hrely hw)
    refine ⟨halways ha, ?_⟩
    intro i hi
    obtain ⟨hg, hstay, hleave⟩ := hn i hi
    exact ⟨hguar ha hg, hstay, fun hs h₂ ho => ih i (hleave hs h₂ (Others.mono hrely ho))⟩

/-- Two accounts of one routine hold together. -/
theorem Meets.and {c₁ c₂ : Terms} {Q₁ Q₂ : α → Host → Prop} {r : Routine α} {h : Host}
    (m₁ : r.Meets c₁ Q₁ h) (m₂ : r.Meets c₂ Q₂ h) (hrely : ∀ {h h'}, c₁.rely h h' → c₂.rely h h') :
    r.Meets { c₁ with
      guar := fun h h' => c₁.guar h h' ∧ c₂.guar h h'
      always := fun h => c₁.always h ∧ c₂.always h
      loops := c₁.loops ∧ c₂.loops
      panics := fun h => c₁.panics h ∧ c₂.panics h } (fun a h' => Q₁ a h' ∧ Q₂ a h') h := by
  induction r generalizing h with
  | done a => exact ⟨⟨m₁.1, m₂.1⟩, m₁.2, m₂.2⟩
  | panic p => exact ⟨⟨m₁.1, m₂.1⟩, m₁.2, m₂.2⟩
  | step f next ih =>
    exact ⟨⟨m₁.1, m₂.1⟩, ⟨m₁.2.1, m₂.2.1⟩,
      fun h' ho => ih h (m₁.2.2 h' ho) (m₂.2.2 h' (Others.mono hrely ho))⟩
  | wait s next ih =>
    refine ⟨m₁.1, ?_⟩
    intro h' hw
    obtain ⟨ha₁, hn₁⟩ := m₁.2 h' hw
    obtain ⟨ha₂, hn₂⟩ := m₂.2 h' (Waits.mono hrely hw)
    exact ⟨⟨ha₁, ha₂⟩, fun i hi => ih i (hn₁ i hi) (hn₂ i hi)⟩
  | serve s handle next ih =>
    obtain ⟨hl₁, ht₁, J₁, hJ₁, hm₁⟩ := m₁
    obtain ⟨hl₂, -, J₂, hJ₂, hm₂⟩ := m₂
    refine ⟨⟨hl₁, hl₂⟩, ht₁, fun h => J₁ h ∧ J₂ h, ⟨hJ₁, hJ₂⟩, ?_⟩
    intro h₁ h' hj hw
    obtain ⟨ha₁, hn₁⟩ := hm₁ h₁ h' hj.1 hw
    obtain ⟨ha₂, hn₂⟩ := hm₂ h₁ h' hj.2 (Waits.mono hrely hw)
    refine ⟨⟨ha₁, ha₂⟩, ?_⟩
    intro i hi
    obtain ⟨hg₁, hs₁, hl₁⟩ := hn₁ i hi
    obtain ⟨hg₂, hs₂, hl₂⟩ := hn₂ i hi
    exact ⟨⟨hg₁, hg₂⟩, fun hs => ⟨hs₁ hs, hs₂ hs⟩,
      fun hs h₂ ho => ih i (hl₁ hs h₂ ho) (hl₂ hs h₂ (Others.mono hrely ho))⟩

/-- What every step and every tick does to the host, a whole run does. -/
theorem Meets.tracks {R : Host → Host → Prop} {Q : α → Host → Prop} {r : Routine α} {h₀ h : Host}
    (htrans : ∀ {a b c}, R a b → R b c → R a c) (hrely : ∀ {a b}, c.rely a b → R a b)
    (hguar : ∀ {a b}, c.guar a b → R a b) (htick : ∀ {s a b}, Tick s a b → R a b)
    (m : r.Meets c Q h) (hR : R h₀ h) :
    r.Meets { c with always := fun h' => c.always h' ∧ R h₀ h' } (fun a h' => Q a h' ∧ R h₀ h') h := by
  have hothers : ∀ {a b}, R h₀ a → Others c.rely a b → R h₀ b := fun ha ho =>
    ho.preserve (fun he hR => htrans hR (hrely he)) ha
  have hwaits : ∀ {s a b}, R h₀ a → Waits c.rely s a b → R h₀ b := fun ha hw =>
    hw.preserve (fun he hR => htrans hR (hrely he)) (fun he hR => htrans hR (htick he)) ha
  induction r generalizing h with
  | done a => exact ⟨⟨m.1, hR⟩, m.2, hR⟩
  | panic p => exact ⟨⟨m.1, hR⟩, m.2⟩
  | step f next ih =>
    exact ⟨⟨m.1, hR⟩, m.2.1,
      fun h' ho => ih h (m.2.2 h' ho) (hothers (htrans hR (hguar m.2.1)) ho)⟩
  | wait s next ih =>
    refine ⟨m.1, ?_⟩
    intro h' hw
    obtain ⟨ha, hn⟩ := m.2 h' hw
    exact ⟨⟨ha, hwaits hR hw⟩, fun i hi => ih i (hn i hi) (hwaits hR hw)⟩
  | serve s handle next ih =>
    obtain ⟨hl, ht, J, hJ, hm⟩ := m
    refine ⟨hl, ht, fun h => J h ∧ R h₀ h, ⟨hJ, hR⟩, ?_⟩
    intro h₁ h' hj hw
    obtain ⟨ha, hn⟩ := hm h₁ h' hj.1 hw
    have hR' := hwaits hj.2 hw
    refine ⟨⟨ha, hR'⟩, ?_⟩
    intro i hi
    obtain ⟨hg, hs, hl⟩ := hn i hi
    exact ⟨hg, fun hb => ⟨hs hb, htrans hR' (hguar hg)⟩,
      fun hb h₂ ho => ih i (hl hb h₂ ho) (hothers (htrans hR' (hguar hg)) ho)⟩

theorem Waits.append {E : Host → Host → Prop} {s s' : List Signal} {h h' : Host}
    (hw : Waits E (s ++ s') h h') : Waits E s h h' :=
  ReflTransGen.mono (fun _ _ => Or.imp_right fun ⟨t, ht, hs, e⟩ =>
    ⟨t, ht, fun d hd => hs d (List.mem_append_left _ hd), e⟩) _ _ hw

theorem Picks.of_append {s s' : List Signal} {h : Host} {i : Nat} (hp : Picks (s ++ s') h i)
    (hi : i < s.length) : Picks s h i := by
  obtain ⟨x, hx, hholds, hdue⟩ := hp
  rw [List.getElem?_append_left hi] at hx
  refine ⟨x, hx, hholds, fun d hd j hj y hy => hdue d hd j hj y ?_⟩
  rwa [List.getElem?_append_left (Nat.lt_trans hj hi)]

/-- A wait that is bounded by a deadline ends at the deadline, unless the deadline passed before it. -/
theorem Waits.now_le {E : Host → Host → Prop} {s : List Signal} {d : Instant} {h h' : Host}
    (hE : ∀ {a b}, E a b → b.now = a.now) (hd : .due d ∈ s) (hw : Waits E s h h') :
    h'.now ≤ d ∨ h'.now = h.now := by
  induction hw with
  | refl => exact .inr rfl
  | tail _ he ih =>
    rcases he with he | ⟨t, ht, hs, rfl⟩
    · rwa [hE he]
    · rcases Nat.eq_or_lt_of_le ht with rfl | hlt
      · exact ih
      · exact .inl (hs d hd hlt)

/-- A routine that is cut off at a deadline keeps to its terms until then and no wait of it takes longer. -/
theorem Meets.within {Q : α → Host → Prop} {r : Routine α} {h₀ h : Host} {d : Instant}
    (hloops : ¬ c.loops) (hrely : ∀ {a b}, c.rely a b → b.now = a.now)
    (hguar : ∀ {a b}, c.guar a b → b.now = a.now) (m : r.Meets c Q h)
    (hnow : h.now ≤ d ∨ h.now = h₀.now) :
    (r.within d).Meets
      { c with always := fun h' => c.always h' ∧ (h'.now ≤ d ∨ h'.now = h₀.now), timely := True }
      (fun o h' => match o with
        | some a => Q a h'
        | none => d ≤ h'.now) h := by
  have hothers : ∀ {a b}, Others c.rely a b → b.now = a.now := fun {a _} ho =>
    ho.preserve (K := fun g => g.now = a.now) (fun he hg => (hrely he).trans hg) rfl
  induction r generalizing h with
  | done a => exact ⟨⟨m.1, hnow⟩, m.2⟩
  | panic p => exact ⟨⟨m.1, hnow⟩, m.2⟩
  | step f next ih =>
    refine ⟨⟨m.1, hnow⟩, m.2.1, fun h' ho => ih h (m.2.2 h' ho) ?_⟩
    rwa [hothers ho, hguar m.2.1]
  | wait s next ih =>
    refine ⟨fun _ => ⟨d, List.mem_append_right _ List.mem_cons_self⟩, ?_⟩
    intro h' hw
    obtain ⟨ha, hn⟩ := m.2 h' (Waits.append hw)
    have hnow' : h'.now ≤ d ∨ h'.now = h₀.now := by
      rcases Waits.now_le hrely (List.mem_append_right _ List.mem_cons_self) hw with hle | he
      · exact .inl hle
      · rwa [he]
    refine ⟨⟨ha, hnow'⟩, ?_⟩
    intro i hi
    dsimp only
    split
    · next hlt => exact ih i (hn i (Picks.of_append hi hlt)) hnow'
    · next hge =>
      obtain ⟨x, hx, hholds, -⟩ := hi
      rw [List.getElem?_append_right (Nat.le_of_not_lt hge), List.getElem?_singleton] at hx
      split at hx
      · cases hx
        exact ⟨⟨ha, hnow'⟩, of_decide_eq_true hholds⟩
      · cases hx
  | serve s handle next => exact absurd m.1 hloops

/-! ## One step at a time -/

section
variable {Q : β → Host → Prop} {h : Host}

theorem meets_read {f : Host → α} {k : α → Routine β} :
    (read f >>= k).Meets c Q h ↔
      c.always h ∧ c.guar h h ∧ ∀ h', Others c.rely h h' → (k (f h)).Meets c Q h' := Iff.rfl

theorem meets_update {f : Host → Host} {k : Unit → Routine β} :
    (update f >>= k).Meets c Q h ↔
      c.always h ∧ c.guar h (f h) ∧ ∀ h', Others c.rely (f h) h' → (k ()).Meets c Q h' := Iff.rfl

theorem meets_act {f : Host → α × Host} {k : α → Routine β} :
    (act f >>= k).Meets c Q h ↔
      c.always h ∧ c.guar h (f h).2 ∧
        ∀ h', Others c.rely (f h).2 h' → (k (f h).1).Meets c Q h' := Iff.rfl

theorem meets_waitAny {s : List Signal} {k : Nat → Routine β} :
    (waitAny s >>= k).Meets c Q h ↔
      (c.timely → ∃ d, .due d ∈ s) ∧
        ∀ h', Waits c.rely s h h' → c.always h' ∧ ∀ i, Picks s h' i → (k i).Meets c Q h' := Iff.rfl

end

/-! ## Runs -/

/-- What a routine meets is true of each of its runs, and what is left of it still meets it. -/
theorem Meets.of_run {Q : α → Host → Prop} {r : Routine α} {h h' : Host} {out : Progress α}
    (m : r.Meets c Q h) (hr : Run c.rely r h out h') :
    c.always h' ∧ (∀ a, out = .returned a → Q a h') ∧ (∀ p, out = .panicked p → c.panics h') ∧
      ∀ rest, out = .going rest → rest.Meets c Q h' := by
  induction hr with
  | going r h => exact ⟨m.always, nofun, nofun, fun _ e => by cases e; exact m⟩
  | done a h => exact ⟨m.1, fun _ e => by cases e; exact m.2, nofun, nofun⟩
  | panic p h => exact ⟨m.1, nofun, fun _ _ => m.2, nofun⟩
  | step ho _ ih => exact ih (m.2.2 _ ho)
  | waiting hw =>
    refine ⟨(m.2 _ hw).1, nofun, nofun, ?_⟩
    intro _ e
    cases e
    exact ⟨m.1, fun h₂ hw₂ => m.2 h₂ (hw.trans hw₂)⟩
  | wait hw hp _ ih => exact ih ((m.2 _ hw).2 _ hp)
  | serving hw =>
    obtain ⟨hl, ht, J, hJ, hm⟩ := m
    refine ⟨(hm _ _ hJ hw).1, nofun, nofun, ?_⟩
    intro _ e
    cases e
    -- The wait is under way: its invariant is what can be reached from where it held.
    refine ⟨hl, ht, fun g => ∃ g₀, J g₀ ∧ Waits c.rely _ g₀ g, ⟨_, hJ, hw⟩, ?_⟩
    rintro h₁ h₂ ⟨g₀, hj, hw₁⟩ hw₂
    refine ⟨(hm g₀ h₂ hj (hw₁.trans hw₂)).1, ?_⟩
    intro i hi
    obtain ⟨hg, hstay, hleave⟩ := (hm g₀ h₂ hj (hw₁.trans hw₂)).2 i hi
    exact ⟨hg, fun hs => ⟨_, hstay hs, .refl⟩, hleave⟩
  | handle hw hp hs _ ih =>
    obtain ⟨hl, ht, J, hJ, hm⟩ := m
    exact ih ⟨hl, ht, J, ((hm _ _ hJ hw).2 _ hp).2.1 hs, hm⟩
  | leave hw hp hs ho _ ih =>
    obtain ⟨-, -, J, hJ, hm⟩ := m
    exact ih (((hm _ _ hJ hw).2 _ hp).2.2 hs _ ho)

/-- Nothing happens until the first of the times that are waited for. -/
theorem exists_waits_picks {E : Host → Host → Prop} {s : List Signal} (hd : ∃ d, .due d ∈ s)
    (h : Host) : ∃ h' i, Waits E s h h' ∧ Picks s h' i := by
  classical
  obtain ⟨d, hd, hfirst⟩ : ∃ d, .due d ∈ s ∧ ∀ d', .due d' ∈ s → d ≤ d' :=
    ⟨Nat.find hd, Nat.find_spec hd, fun _ => Nat.find_min' hd⟩
  obtain ⟨t, ht, hdt, hlate⟩ : ∃ t, h.now ≤ t ∧ d ≤ t ∧ (h.now < t → t = d) := by
    rcases Nat.le_total d h.now with hle | hle
    · exact ⟨h.now, Nat.le_refl _, hle, fun hlt => absurd hlt (Nat.lt_irrefl _)⟩
    · exact ⟨d, hle, Nat.le_refl _, fun _ => rfl⟩
  have hdue : (Signal.due d).holds { h with now := t } = true := decide_eq_true hdt
  obtain ⟨i, hi⟩ : ∃ i, Picks s { h with now := t } i := exists_picks ⟨_, hd, hdue⟩
  exact ⟨_, i, .single (.inr ⟨t, ht, fun d' hd' hlt => hlate hlt ▸ hfirst d' hd', rfl⟩), hi⟩

/-- A routine whose waits are bounded and that does not panic has a run in which it returns; when it may
serve rounds, that is a run in which someone fires the trigger. -/
theorem Meets.exists_run {Q : α → Host → Prop} {r : Routine α} {h : Host} (m : r.Meets c Q h)
    (ht : c.timely) (hp : ∀ {g}, c.always g → ¬ c.panics g)
    (hfire : c.loops → ∀ g reason, c.rely g (g.fire reason).2) :
    ∃ a h', Run c.rely r h (.returned a) h' ∧ Q a h' := by
  induction r generalizing h with
  | done a => exact ⟨a, h, .done a h, m.2⟩
  | panic p => exact absurd m.2 (hp m.1)
  | step f next ih =>
    obtain ⟨a, h', hr, hq⟩ := ih h (m.2.2 _ .refl)
    exact ⟨a, h', .step .refl hr, hq⟩
  | wait s next ih =>
    obtain ⟨h₁, i, hw, hi⟩ := exists_waits_picks (E := c.rely) (m.1 ht) h
    obtain ⟨a, h', hr, hq⟩ := ih i ((m.2 _ hw).2 i hi)
    exact ⟨a, h', .wait hw hi hr, hq⟩
  | serve s handle next ih =>
    obtain ⟨hl, hends, J, hJ, hm⟩ := m
    obtain ⟨i, hs, hleaves⟩ := hends ht
    have hw : Waits c.rely s h (h.fire .requested).2 := .single (.inl (hfire hl h _))
    have hi : Picks s (h.fire .requested).2 i := by
      refine ⟨_, hs, ?_, fun _ => nofun⟩
      simp only [Signal.holds, Host.fire, Trigger.fire, Host.emit, Host.note, Trigger.isTriggered]
      split <;> simp_all
    obtain ⟨a, h', hr, hq⟩ := ih i (((hm _ _ hJ hw).2 i hi).2.2 (hleaves _) _ .refl)
    exact ⟨a, h', .leave hw hi (hleaves _) .refl hr, hq⟩

end Routine

end ServiceHost.Lifecycle
