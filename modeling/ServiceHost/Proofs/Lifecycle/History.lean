import ServiceHost.Proofs.Lifecycle.Move

/-! Reading the history. What the coordinator itself did is kept apart from what it had no hand in: starts
that come back, exits that arrive, actions that are accepted. -/

namespace ServiceHost.Lifecycle

namespace Deed

/-- Deeds that are not the coordinator's. -/
def isForeign : Deed → Bool
  | came .. | exit _ | accepted _ => true
  | _ => false

def exit? : Deed → Option Exit
  | exit e => some e
  | _ => none

def accepted? : Deed → Option Action
  | accepted a => some a
  | _ => none

def added? : Deed → Option ResourceId
  | added r => some r
  | _ => none

def start? : Deed → Option Started
  | start s => some s
  | _ => none

def close? : Deed → Option Started
  | close s => some s
  | _ => none

end Deed

namespace Host

/-- What the coordinator did, and when, oldest first. -/
def conduct (h : Host) : List (Instant × Deed) := h.history.filter (!·.2.isForeign)

/-- What the coordinator did, oldest first. -/
def doings (h : Host) : List Deed := h.conduct.map (·.2)

/-- The exits that were sent to the coordinator. -/
def arrivals (h : Host) : List Exit := h.deeds.filterMap Deed.exit?

/-- The actions that the registry accepted. -/
def accepts (h : Host) : List Action := h.deeds.filterMap Deed.accepted?

theorem mem_doings {h : Host} {d : Deed} : d ∈ h.doings ↔ d ∈ h.deeds ∧ d.isForeign = false := by
  simp [doings, conduct, deeds]

theorem Grows.mem_doings {h h' : Host} (g : h.Grows h') {d : Deed} (hd : d ∈ h.doings) :
    d ∈ h'.doings :=
  Host.mem_doings.2 ((Host.mem_doings.1 hd).imp_left g.mem_deeds)

theorem mem_arrivals {h : Host} {e : Exit} : e ∈ h.arrivals ↔ .exit e ∈ h.deeds := by
  refine List.mem_filterMap.trans ⟨?_, fun he => ⟨_, he, rfl⟩⟩
  rintro ⟨d, hd, hde⟩
  cases d <;> cases hde
  exact hd

section
variable {h h' : Host} (hh : h'.history = h.history)
include hh

theorem deeds_congr : h'.deeds = h.deeds := by rw [deeds, hh, deeds]

theorem conduct_congr : h'.conduct = h.conduct := by rw [conduct, hh, conduct]

theorem doings_congr : h'.doings = h.doings := by rw [doings, conduct_congr hh, doings]

theorem arrivals_congr : h'.arrivals = h.arrivals := by rw [arrivals, deeds_congr hh, arrivals]

theorem accepts_congr : h'.accepts = h.accepts := by rw [accepts, deeds_congr hh, accepts]

end

@[simp] theorem deeds_record (h : Host) (d : Deed) : (h.record d).deeds = h.deeds ++ [d] := by
  simp [deeds, record]

theorem conduct_record (h : Host) {d : Deed} (hd : d.isForeign = false) :
    (h.record d).conduct = h.conduct ++ [(h.now, d)] := by
  simp [conduct, record, hd]

theorem doings_record (h : Host) {d : Deed} (hd : d.isForeign = false) :
    (h.record d).doings = h.doings ++ [d] := by
  simp [doings, conduct_record h hd]

theorem arrivals_record (h : Host) (d : Deed) :
    (h.record d).arrivals = h.arrivals ++ d.exit?.toList := by
  cases hd : d.exit? <;> simp [arrivals, hd]

theorem accepts_record (h : Host) (d : Deed) :
    (h.record d).accepts = h.accepts ++ d.accepted?.toList := by
  cases hd : d.accepted? <;> simp [accepts, hd]

/-- Exits arrive and actions are accepted without the coordinator. -/
theorem arrivals_record_own (h : Host) {d : Deed} (hd : d.isForeign = false) :
    (h.record d).arrivals = h.arrivals := by
  have hnone : d.exit? = none := by cases d <;> first | rfl | cases hd
  rw [arrivals_record, hnone, Option.toList_none, List.append_nil]

theorem accepts_record_own (h : Host) {d : Deed} (hd : d.isForeign = false) :
    (h.record d).accepts = h.accepts := by
  have hnone : d.accepted? = none := by cases d <;> first | rfl | cases hd
  rw [accepts_record, hnone, Option.toList_none, List.append_nil]

/-! ## Operations that write to the history -/

theorem told_of_closed {h : Host} (hc : h.registry.closed = true) (a : Action) :
    (h.register a).1 = .error ⟨a.name⟩ := by
  simp [register, Registry.register, hc]

theorem told_of_open {h : Host} (hc : h.registry.closed = false) (a : Action) : (h.register a).1 = .ok () := by
  simp [register, Registry.register, hc]

theorem register_of_closed {h : Host} (hc : h.registry.closed = true) (a : Action) :
    (h.register a).2 = h.emit (.registrationRejected a.name) := by
  simp [register, Registry.register, hc]

theorem register_of_open {h : Host} (hc : h.registry.closed = false) (a : Action) :
    (h.register a).2 =
      ({ h with registry := { h.registry with actions := h.registry.actions ++ [a] } }.emit
        (.actionRegistered a.name h.registry.actions.length)).record (.accepted a) := by
  simp [register, Registry.register, hc]

theorem closeRegistry_of_closed {h : Host} (hc : h.registry.closed = true) :
    h.closeRegistry = (none, h.emit .drainIgnored) := by
  simp [closeRegistry, Registry.close, hc]

theorem closeRegistry_of_open {h : Host} (hc : h.registry.closed = false) :
    h.closeRegistry = (some h.registry.actions, { h with registry := ⟨[], true⟩ }) := by
  simp [closeRegistry, Registry.close, hc]

end Host

/-- A start that comes back has reported before, or its result is its report. -/
theorem Host.settle_cases {h : Host} {t : TaskId} {j : Job} (hj : h.job? t = some j)
    (r : ResourceId) (audience : Audience) (result : Except ResourceError Unit) :
    h.readiness t = none ∧
        h.settle t r audience result =
          (h.record (.came t result)).modifyTask t (fun a => { a with readiness := ⟨some result⟩ }) ∨
      (∃ q, h.readiness t = some q) ∧
        h.settle t r audience result =
          (h.record (.came t result)).addExit audience ⟨h.resourceName r, result⟩ := by
  obtain ⟨a, ha, rfl⟩ := Option.map_eq_some_iff.1 hj
  cases hr : a.readiness.report with
  | none => exact .inl ⟨by simp [readiness, ha, hr], settle_of_unreported ha hr⟩
  | some q => exact .inr ⟨⟨q, by simp [readiness, ha, hr]⟩, settle_of_reported ha hr⟩

namespace Move

variable {D : Instant → Prop} {h h' : Host}

/-- A move adds to the history only what the coordinator has no hand in. -/
theorem history (m : Move D h h') :
    ∃ l, h'.history = h.history ++ l ∧ ∀ x ∈ l, x.2.isForeign = true := by
  cases m with
  | register a =>
    cases hc : h.registry.closed with
    | true => rw [Host.register_of_closed hc]; exact ⟨[], (List.append_nil _).symm, nofun⟩
    | false =>
      rw [Host.register_of_open hc]
      exact ⟨_, rfl, fun x hx => by rw [List.mem_singleton.1 hx]; rfl⟩
  | closeRegistry _ =>
    rw [Host.closeRegistry_only]
    exact ⟨[], (List.append_nil _).symm, nofun⟩
  | @comeBack t r audience result hj _ =>
    rcases Host.settle_cases hj r audience result with ⟨-, hs⟩ | ⟨-, hs⟩
    · rw [hs]
      exact ⟨_, rfl, fun x hx => by rw [List.mem_singleton.1 hx]; rfl⟩
    · rw [hs]
      cases audience with
      | direct => exact ⟨_, rfl, fun x hx => by rw [List.mem_singleton.1 hx]; rfl⟩
      | coordinator =>
        refine ⟨_, List.append_assoc .., ?_⟩
        intro x hx
        rcases List.mem_pair.1 hx with rfl | rfl <;> rfl
  | _ => exact ⟨[], (List.append_nil _).symm, nofun⟩

theorem conduct (m : Move D h h') : h'.conduct = h.conduct := by
  obtain ⟨l, hl, hforeign⟩ := m.history
  have hnone : l.filter (!·.2.isForeign) = [] :=
    List.filter_eq_nil_iff.2 fun x hx => by simp [hforeign x hx]
  rw [Host.conduct, hl, List.filter_append, hnone, List.append_nil, Host.conduct]

/-- An exit that arrives is queued. -/
theorem exits (m : Move D h h') :
    ∃ l, h'.exits = h.exits ++ l ∧ h'.arrivals = h.arrivals ++ l := by
  cases m with
  | register a =>
    refine ⟨[], by rw [Host.register_only, List.append_nil], ?_⟩
    cases hc : h.registry.closed with
    | true => rw [Host.register_of_closed hc, List.append_nil]; rfl
    | false => rw [Host.register_of_open hc, Host.arrivals_record]; rfl
  | closeRegistry _ =>
    rw [Host.closeRegistry_only]
    exact ⟨[], (List.append_nil _).symm, (List.append_nil _).symm⟩
  | @comeBack t r audience result hj _ =>
    rcases Host.settle_cases hj r audience result with ⟨-, hs⟩ | ⟨-, hs⟩
    · exact ⟨[], by rw [hs, List.append_nil]; rfl, by rw [hs]; exact h.arrivals_record _⟩
    · rw [hs]
      cases audience with
      | direct => exact ⟨[], (List.append_nil _).symm, h.arrivals_record _⟩
      | coordinator =>
        refine ⟨[⟨h.resourceName r, result⟩], rfl, ?_⟩
        have hcame : (h.record (.came t result)).arrivals = h.arrivals :=
          (h.arrivals_record _).trans (List.append_nil _)
        exact (Host.arrivals_record _ _).trans (by rw [← hcame]; rfl)
  | _ => exact ⟨[], (List.append_nil _).symm, (List.append_nil _).symm⟩

/-- A registry that is closed accepts nothing. -/
theorem accepts (m : Move D h h') (hc : h.registry.closed = true) : h'.accepts = h.accepts := by
  cases m with
  | register a => rw [Host.register_of_closed hc]; rfl
  | closeRegistry _ => rw [Host.closeRegistry_only]; rfl
  | @comeBack t r audience result hj _ =>
    have hcame : (h.record (.came t result)).accepts = h.accepts :=
      (h.accepts_record _).trans (List.append_nil _)
    rcases Host.settle_cases hj r audience result with ⟨-, hs⟩ | ⟨-, hs⟩
    · rw [hs]; exact hcame
    · rw [hs]
      cases audience with
      | direct => exact hcame
      | coordinator =>
        exact ((Host.accepts_record _ _).trans (List.append_nil _)).trans hcame
  | _ => rfl

end Move

end ServiceHost.Lifecycle
