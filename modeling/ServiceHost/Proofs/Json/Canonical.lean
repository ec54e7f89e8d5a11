import Mathlib.Data.String.Basic
import ServiceHost.Json.Value
import ServiceHost.Proofs.Lookup

/-! Key order. The canonical form of a value has the keys of every object in order, and a value that has
them so is its own canonical form. -/

namespace ServiceHost.Json

namespace Value

mutual

/-- The keys of every object ascend. -/
def Sorted : Value → Prop
  | .arr items => ItemsSorted items
  | .obj members => MembersSorted members
  | _ => True

def ItemsSorted : List Value → Prop
  | [] => True
  | v :: rest => v.Sorted ∧ ItemsSorted rest

def MembersSorted : List (String × Value) → Prop
  | [] => True
  | (k, v) :: rest => (∀ m ∈ rest, k < m.1) ∧ v.Sorted ∧ MembersSorted rest

end

end Value

/-! ## Putting a member in its place -/

theorem insertMember_of_lt {k : String} {v : Value} {ms : List (String × Value)}
    (below : ∀ m ∈ ms, k < m.1) : Value.insertMember k v ms = (k, v) :: ms := by
  cases ms with
  | nil => rfl
  | cons m ms => rw [Value.insertMember, if_pos (below m (by simp))]

theorem mem_insertMember {k : String} {v : Value} {ms : List (String × Value)} {m : String × Value}
    (mem : m ∈ Value.insertMember k v ms) : m = (k, v) ∨ m ∈ ms := by
  induction ms with
  | nil => exact .inl (List.mem_singleton.1 mem)
  | cons first ms ih =>
    obtain ⟨l, w⟩ := first
    rw [Value.insertMember] at mem
    split at mem
    · exact List.mem_cons.1 mem
    · split at mem
      · exact (List.mem_cons.1 mem).imp_right (List.mem_cons_of_mem _)
      · rcases List.mem_cons.1 mem with rfl | mem
        · exact .inr List.mem_cons_self
        · exact (ih mem).imp_right (List.mem_cons_of_mem _)

theorem sorted_insertMember {k : String} {v : Value} {ms : List (String × Value)} (value : v.Sorted)
    (sorted : Value.MembersSorted ms) : Value.MembersSorted (Value.insertMember k v ms) := by
  induction ms with
  | nil => exact ⟨by simp, value, trivial⟩
  | cons first ms ih =>
    obtain ⟨l, w⟩ := first
    obtain ⟨below, first, rest⟩ := sorted
    rw [Value.insertMember]
    split
    case isTrue less =>
      refine ⟨fun m mem => ?_, value, below, first, rest⟩
      rcases List.mem_cons.1 mem with rfl | mem
      · exact less
      · exact lt_trans less (below m mem)
    case isFalse notLess =>
      split
      case isTrue same => exact ⟨same ▸ below, value, rest⟩
      case isFalse other =>
        refine ⟨fun m mem => ?_, first, ih rest⟩
        rcases mem_insertMember mem with rfl | mem
        · exact lt_of_le_of_ne (not_lt.1 notLess) (Ne.symm other)
        · exact below m mem

/-! ## Canonical forms -/

mutual

theorem canonical_of_sorted (v : Value) (sorted : v.Sorted) : v.canonical = v := by
  match v with
  | .null | .bool _ | .num _ | .str _ => rfl
  | .arr items => rw [Value.canonical, canonicalItems_of_sorted items sorted]
  | .obj members => rw [Value.canonical, canonicalMembers_of_sorted members sorted]

theorem canonicalItems_of_sorted (vs : List Value) (sorted : Value.ItemsSorted vs) :
    Value.canonicalItems vs = vs := by
  match vs with
  | [] => rfl
  | v :: rest =>
    rw [Value.canonicalItems, canonical_of_sorted v sorted.1, canonicalItems_of_sorted rest sorted.2]

theorem canonicalMembers_of_sorted (ms : List (String × Value)) (sorted : Value.MembersSorted ms) :
    Value.canonicalMembers ms = ms := by
  match ms with
  | [] => rfl
  | (k, v) :: rest =>
    have once : rest.any (·.1 == k) = false := by
      rw [List.any_eq_false]
      intro m mem same
      exact absurd (sorted.1 m mem) (by simp [beq_iff_eq.1 same])
    rw [Value.canonicalMembers, canonicalMembers_of_sorted rest sorted.2.2,
      canonical_of_sorted v sorted.2.1]
    simp [once, insertMember_of_lt sorted.1]

end

mutual

theorem sorted_canonical : (v : Value) → v.canonical.Sorted
  | .null | .bool _ | .num _ | .str _ => trivial
  | .arr items => sorted_canonicalItems items
  | .obj members => sorted_canonicalMembers members

theorem sorted_canonicalItems : (vs : List Value) → Value.ItemsSorted (Value.canonicalItems vs)
  | [] => trivial
  | v :: rest => ⟨sorted_canonical v, sorted_canonicalItems rest⟩

theorem sorted_canonicalMembers :
    (ms : List (String × Value)) → Value.MembersSorted (Value.canonicalMembers ms)
  | [] => trivial
  | (k, v) :: rest => by
    simp only [Value.canonicalMembers]
    split
    · exact sorted_canonicalMembers rest
    · exact sorted_insertMember (sorted_canonical v) (sorted_canonicalMembers rest)

end

/-! ## Looking up -/

theorem lookup_insertMember (k : String) (v : Value) (ms : List (String × Value)) (j : String) :
    (Value.insertMember k v ms).lookup j = if j = k then some v else ms.lookup j := by
  induction ms with
  | nil => rw [Value.insertMember, lookup_cons_ite]
  | cons first ms ih =>
    obtain ⟨l, w⟩ := first
    rw [Value.insertMember]
    split
    · rw [lookup_cons_ite]
    · split
      · next here =>
        rw [lookup_cons_ite, lookup_cons_ite, ← here]
        split <;> rfl
      · next other =>
        rw [lookup_cons_ite, lookup_cons_ite, ih]
        by_cases same : j = l
        · rw [if_pos same, if_pos same, if_neg (same ▸ Ne.symm other)]
        · rw [if_neg same, if_neg same]

/-- Of several members with one key the last is kept. -/
theorem lookup_canonicalMembers_last (ms : List (String × Value)) (k : String) :
    (Value.canonicalMembers ms).lookup k = (ms.reverse.lookup k).map Value.canonical := by
  induction ms generalizing k with
  | nil => rfl
  | cons m ms ih =>
    obtain ⟨j, v⟩ := m
    have known : (Value.canonicalMembers ms).any (·.1 == j) = (ms.reverse.lookup j).isSome := by
      rw [← Option.isSome_map, ← ih j, isSome_lookup, List.contains_eq_any_beq, List.any_map]
      exact congrArg (List.any _) (funext fun m => Bool.beq_comm)
    simp only [Value.canonicalMembers, List.reverse_cons, List.lookup_append, lookup_cons_ite, List.lookup_nil, known]
    cases later : ms.reverse.lookup j with
    | some w =>
      rw [Option.isSome_some, if_pos rfl, ih]
      by_cases here : k = j
      · rw [here, later]
        rfl
      · rw [if_neg here, Option.or_none]
    | none =>
      rw [Option.isSome_none, if_neg Bool.false_ne_true, lookup_insertMember, ih]
      by_cases here : k = j
      · rw [if_pos here, if_pos here, here, later]
        rfl
      · rw [if_neg here, if_neg here, Option.or_none]

/-- An object without repeated keys has canonical members at its keys. -/
theorem lookup_canonicalMembers {ms : List (String × Value)} (once : (ms.map (·.1)).Nodup) (j : String) :
    (Value.canonicalMembers ms).lookup j = (ms.lookup j).map Value.canonical := by
  have once' : (ms.reverse.map (·.1)).Nodup := by
    rw [List.map_reverse]
    exact List.pairwise_reverse.2 (once.imp Ne.symm)
  have same : ms.reverse.lookup j = ms.lookup j := by
    refine Option.ext fun v => ?_
    rw [lookup_eq_some_iff once, lookup_eq_some_iff once', List.mem_reverse]
  rw [lookup_canonicalMembers_last, same]

end ServiceHost.Json
