import Mathlib.Logic.Basic

/-! Looking up a key in a list of pairs, where the first pair with the key counts. -/

namespace ServiceHost

variable {κ α : Type} [BEq κ]

theorem isSome_lookup (ms : List (κ × α)) (k : κ) : (ms.lookup k).isSome = (ms.map (·.1)).contains k := by
  induction ms with
  | nil => rfl
  | cons m rest ih =>
    obtain ⟨j, a⟩ := m
    rw [List.lookup_cons, List.map_cons, List.contains_cons, ← ih]
    cases k == j <;> rfl

variable [LawfulBEq κ]

theorem lookup_eq_none_of_not_mem {ms : List (κ × α)} {k : κ} (new : k ∉ ms.map (·.1)) :
    ms.lookup k = none := by
  rw [List.lookup_eq_none_iff]
  intro m mem
  rw [bne_iff_ne]
  rintro rfl
  exact new (List.mem_map.2 ⟨m, mem, rfl⟩)

theorem mem_of_lookup {ms : List (κ × α)} {k : κ} {a : α} (found : ms.lookup k = some a) :
    (k, a) ∈ ms := by
  obtain ⟨front, back, rfl, -⟩ := List.lookup_eq_some_iff.1 found
  exact List.mem_append_right _ List.mem_cons_self

theorem exists_lookup {ms : List (κ × α)} {k : κ} (known : k ∈ ms.map (·.1)) : ∃ a, ms.lookup k = some a := by
  rw [← Option.isSome_iff_exists, isSome_lookup, List.contains_iff_mem]
  exact known

/-- Without repeated keys the pairs of a list are what is looked up in it. -/
theorem lookup_eq_some_iff {ms : List (κ × α)} (once : (ms.map (·.1)).Nodup) {k : κ} {a : α} :
    ms.lookup k = some a ↔ (k, a) ∈ ms := by
  constructor
  · exact mem_of_lookup
  · intro mem
    obtain ⟨front, back, rfl⟩ := List.append_of_mem mem
    refine List.lookup_eq_some_iff.2 ⟨front, back, rfl, fun m earlier => ?_⟩
    rw [List.map_append, List.map_cons] at once
    have apart := (List.nodup_append.1 once).2.2
    rw [bne_iff_ne]
    exact fun same => apart m.1 (List.mem_map.2 ⟨m, earlier, rfl⟩) k List.mem_cons_self same.symm

variable [DecidableEq κ]

theorem lookup_cons_ite (key k : κ) (a : α) (rest : List (κ × α)) :
    ((k, a) :: rest).lookup key = if key = k then some a else rest.lookup key := by
  by_cases same : key = k
  · rw [if_pos same, same, List.lookup_cons_self]
  · rw [if_neg same, List.lookup_cons, beq_eq_false_iff_ne.2 same]

theorem lookup_map_snd {β : Type} (g : α → β) (ms : List (κ × α)) (k : κ) :
    (ms.map fun m => (m.1, g m.2)).lookup k = (ms.lookup k).map g := by
  induction ms with
  | nil => rfl
  | cons m rest ih =>
    obtain ⟨j, a⟩ := m
    rw [List.map_cons, lookup_cons_ite, lookup_cons_ite, ih]
    split <;> rfl

theorem find?_eq_lookup (ms : List (κ × α)) (k : κ) :
    (ms.find? (·.1 == k)).map (·.2) = ms.lookup k := by
  induction ms with
  | nil => rfl
  | cons m rest ih =>
    obtain ⟨j, a⟩ := m
    rw [List.find?_cons, lookup_cons_ite]
    by_cases same : k = j
    · simp [same]
    · rw [if_neg same, beq_eq_false_iff_ne.2 (Ne.symm same)]
      exact ih

end ServiceHost
