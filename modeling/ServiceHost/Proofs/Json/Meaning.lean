import Mathlib.Data.List.Forall2
import Mathlib.Data.List.Sort
import ServiceHost.Proofs.Json.Document

/-! What a document stands for. The value of a node is given by its leaves and, for an object, by the last
member with each key; a node without odd leaves has exactly one value, and the reader finds it. -/

namespace ServiceHost.Json

/-! ## Plain nodes -/

namespace Numeral

/-- The absolute value of a numeral without fraction and exponent. -/
def magnitude (n : Numeral) : Nat := Text.digitsValue 10 n.whole

/-- An integer that fits 64 bits, signed when it is negative. -/
structure Plain (n : Numeral) : Prop where
  whole : n.fraction = [] ∧ n.exponent = none
  fits : n.magnitude ≤ if n.negative then 9223372036854775808 else maxWord

/-- The number of a plain numeral. There is no negative zero among the integers. -/
def plainNumber (n : Numeral) : Number :=
  if n.negative then if n.magnitude = 0 then .float 0x8000000000000000 else .int (-n.magnitude)
  else .int n.magnitude

end Numeral

namespace Node

mutual

/-- Every text is a text and every number a plain one. -/
def Plain : Node → Prop
  | .numeral n => n.Plain
  | .text s => s.isSome
  | .arr items => ItemsPlain items
  | .obj members => MembersPlain members
  | _ => True

def ItemsPlain : List Node → Prop
  | [] => True
  | v :: rest => v.Plain ∧ ItemsPlain rest

def MembersPlain : List (Option String × Node) → Prop
  | [] => True
  | (k, v) :: rest => k.isSome ∧ v.Plain ∧ MembersPlain rest

end

/-- The value that a node stands for. Of several members with one key the last counts, and keys ascend. -/
inductive Denotes : Node → Value → Prop
  | null : Denotes .null .null
  | bool (b : Bool) : Denotes (.bool b) (.bool b)
  | numeral {n : Numeral} (plain : n.Plain) : Denotes (.numeral n) (.num n.plainNumber)
  | text (s : String) : Denotes (.text (some s)) (.str s)
  | arr {items : List Node} {vs : List Value} (length : items.length = vs.length)
      (each : ∀ (i : Nat) n v, items[i]? = some n → vs[i]? = some v → Denotes n v) : Denotes (.arr items) (.arr vs)
  | obj {members : List (Option String × Node)} {ms : List (String × Value)}
      (ascend : ms.Pairwise (·.1 < ·.1)) (keys : ∀ k, k ∈ ms.map (·.1) ↔ some k ∈ members.map (·.1))
      (last : ∀ k n v, members.reverse.lookup (some k) = some n → ms.lookup k = some v → Denotes n v) :
      Denotes (.obj members) (.obj ms)

end Node

/-! ## One value -/

theorem nodup_of_ascend {ms : List (String × Value)} (ascend : ms.Pairwise (·.1 < ·.1)) :
    (ms.map (·.1)).Nodup :=
  List.pairwise_map.2 (ascend.imp fun less same => absurd (same ▸ less) (lt_irrefl _))

theorem eq_of_lookup {ms ms' : List (String × Value)} (ascend : ms.Pairwise (·.1 < ·.1))
    (ascend' : ms'.Pairwise (·.1 < ·.1)) (same : ∀ k, ms.lookup k = ms'.lookup k) : ms = ms' := by
  have once := nodup_of_ascend ascend
  have once' := nodup_of_ascend ascend'
  have perm : ms.Perm ms' := by
    refine (List.perm_ext_iff_of_nodup once.of_map once'.of_map).2 fun ⟨k, v⟩ => ?_
    rw [← lookup_eq_some_iff once, ← lookup_eq_some_iff once', same]
  exact perm.eq_of_pairwise (fun _ _ _ _ less more => absurd (lt_trans less more) (lt_irrefl _)) ascend ascend'

theorem Node.Denotes.unique {n : Node} {v w : Value} (denotes : n.Denotes v) (other : n.Denotes w) : v = w := by
  induction denotes generalizing w with
  | null => cases other; rfl
  | bool b => cases other; rfl
  | numeral plain => cases other; rfl
  | text s => cases other; rfl
  | @arr items vs length each ih =>
    cases other with
    | @arr _ ws length' each' =>
      refine congrArg Value.arr (List.ext_getElem (length.symm.trans length') fun i here here' => ?_)
      have item : i < items.length := length ▸ here
      exact ih i _ _ (List.getElem?_eq_getElem item) (List.getElem?_eq_getElem here)
        (each' i _ _ (List.getElem?_eq_getElem item) (List.getElem?_eq_getElem here'))
  | @obj members ms ascend keys last ih =>
    cases other with
    | @obj _ ms' ascend' keys' last' =>
      refine congrArg Value.obj (eq_of_lookup ascend ascend' fun k => ?_)
      by_cases known : some k ∈ members.map (·.1)
      · have here : some k ∈ members.reverse.map (·.1) := by simpa using known
        obtain ⟨n, found⟩ := exists_lookup here
        obtain ⟨v, here⟩ := exists_lookup ((keys k).2 known)
        obtain ⟨w, there⟩ := exists_lookup ((keys' k).2 known)
        rw [here, there, ih k n v found here (last' k n w found there)]
      · rw [lookup_eq_none_of_not_mem (mt (keys k).1 known), lookup_eq_none_of_not_mem (mt (keys' k).1 known)]

/-! ## The value that is read -/

theorem number?_of_plain {n : Numeral} (plain : n.Plain) : n.number? = some n.plainNumber := by
  obtain ⟨negative, whole, fraction, exponent⟩ := n
  obtain ⟨⟨rfl, rfl⟩, fits⟩ := plain
  simp only [Numeral.magnitude] at fits
  have room : Text.digitsValue 10 whole ≤ maxWord := by
    refine fits.trans ?_
    split <;> decide
  have all : appendWhole 0 whole = (Text.digitsValue 10 whole, 0) := appendWhole_of_fits room
  have zero : floatNumber? true 0 0 = some (.float 0x8000000000000000) := by decide +kernel
  simp only [Numeral.number?, Numeral.plainNumber, Numeral.magnitude, all, List.isEmpty_nil, Option.isNone_none,
    Bool.and_self, decide_true, if_true]
  cases negative with
  | false => rfl
  | true =>
    by_cases none : Text.digitsValue 10 whole = 0
    · simp [none, zero]
    · simp only [if_true] at fits
      simp [none, Nat.not_lt.2 fits]

theorem pairwise_of_sorted {ms : List (String × Value)} (sorted : Value.MembersSorted ms) :
    ms.Pairwise (·.1 < ·.1) := by
  induction ms with
  | nil => exact .nil
  | cons m ms ih => exact .cons sorted.1 (ih sorted.2.2)

theorem canonicalItems_eq_map (vs : List Value) : Value.canonicalItems vs = vs.map Value.canonical := by
  induction vs with
  | nil => rfl
  | cons v vs ih => rw [Value.canonicalItems, List.map_cons, ih]

/-- The keys are the same, and so is the order of the members. -/
abbrev Alike (R : Node → Value → Prop) : List (Option String × Node) → List (String × Value) → Prop :=
  List.Forall₂ fun m w => m.1 = some w.1 ∧ R m.2 w.2

theorem Alike.keys {R : Node → Value → Prop} {ms : List (Option String × Node)} {ws : List (String × Value)}
    (alike : Alike R ms ws) : ms.map (·.1) = ws.map (some ·.1) := by
  induction alike with
  | nil => rfl
  | cons first _ ih => rw [List.map_cons, List.map_cons, first.1, ih]

theorem Alike.lookup {R : Node → Value → Prop} {ms : List (Option String × Node)} {ws : List (String × Value)}
    (alike : Alike R ms ws) {k : String} {n : Node} {w : Value} (found : ms.lookup (some k) = some n)
    (there : ws.lookup k = some w) : R n w := by
  induction alike with
  | nil => cases found
  | @cons m v ms ws first _ ih =>
    obtain ⟨l, n'⟩ := m
    obtain ⟨j, w'⟩ := v
    obtain ⟨rfl, related⟩ := first
    rw [lookup_cons_ite] at found there
    by_cases here : k = j
    · rw [if_pos (congrArg some here), Option.some.injEq] at found
      rw [if_pos here, Option.some.injEq] at there
      exact found ▸ there ▸ related
    · rw [if_neg (mt Option.some.inj here)] at found
      rw [if_neg here] at there
      exact ih found there

theorem keys_canonicalMembers (ws : List (String × Value)) (k : String) :
    k ∈ (Value.canonicalMembers ws).map (·.1) ↔ k ∈ ws.map (·.1) := by
  rw [← List.contains_iff_mem, ← isSome_lookup, lookup_canonicalMembers_last, Option.isSome_map, isSome_lookup,
    List.contains_iff_mem, List.map_reverse, List.mem_reverse]

mutual

theorem denotes_of_plain (n : Node) (plain : n.Plain) : ∃ w, n.leafValue? = some w ∧ n.Denotes w.canonical := by
  match n with
  | .null => exact ⟨_, rfl, .null⟩
  | .bool b => exact ⟨_, rfl, .bool b⟩
  | .numeral n => exact ⟨.num n.plainNumber, by rw [Node.leafValue?, number?_of_plain plain]; rfl, .numeral plain⟩
  | .text (some s) => exact ⟨_, rfl, .text s⟩
  | .arr items =>
    obtain ⟨ws, read, each⟩ := denotes_of_itemsPlain items plain
    refine ⟨.arr ws, by rw [Node.leafValue?, read]; rfl, ?_⟩
    rw [Value.canonical, canonicalItems_eq_map]
    refine .arr (by simpa using each.length_eq) fun i n v here there => ?_
    rw [List.getElem?_map, Option.map_eq_some_iff] at there
    obtain ⟨w, there, rfl⟩ := there
    obtain ⟨item, rfl⟩ := List.getElem?_eq_some_iff.1 here
    obtain ⟨value, rfl⟩ := List.getElem?_eq_some_iff.1 there
    exact each.get item value
  | .obj members =>
    obtain ⟨ws, read, alike⟩ := denotes_of_membersPlain members plain
    refine ⟨.obj ws, by rw [Node.leafValue?, read]; rfl, ?_⟩
    rw [Value.canonical]
    refine .obj (pairwise_of_sorted (sorted_canonicalMembers ws)) (fun k => ?_) fun k n v found there => ?_
    · rw [keys_canonicalMembers, alike.keys]
      simp
    · rw [lookup_canonicalMembers_last, Option.map_eq_some_iff] at there
      obtain ⟨w, there, rfl⟩ := there
      exact Alike.lookup (R := fun n w => n.Denotes w.canonical) (List.forall₂_reverse_iff.2 alike) found there

theorem denotes_of_itemsPlain (items : List Node) (plain : Node.ItemsPlain items) : ∃ ws,
    Node.itemValues? items = some ws ∧ List.Forall₂ (fun n w => n.Denotes w.canonical) items ws := by
  match items with
  | [] => exact ⟨[], rfl, .nil⟩
  | n :: rest =>
    obtain ⟨w, first, denotes⟩ := denotes_of_plain n plain.1
    obtain ⟨ws, others, each⟩ := denotes_of_itemsPlain rest plain.2
    exact ⟨w :: ws, by simp [Node.itemValues?, first, others], .cons denotes each⟩

theorem denotes_of_membersPlain (members : List (Option String × Node)) (plain : Node.MembersPlain members) : ∃ ws,
    Node.memberValues? members = some ws ∧
      Alike (fun n w => n.Denotes w.canonical) members ws := by
  match members with
  | [] => exact ⟨[], rfl, .nil⟩
  | (some k, n) :: rest =>
    obtain ⟨w, first, denotes⟩ := denotes_of_plain n plain.2.1
    obtain ⟨ws, others, each⟩ := denotes_of_membersPlain rest plain.2.2
    exact ⟨(k, w) :: ws, by simp [Node.memberValues?, first, others], .cons ⟨rfl, denotes⟩ each⟩

end

/-- A plain node that is not nested too deeply is read as the value that it denotes. -/
theorem value?_eq_some_iff {n : Node} {outer : Nat} {v : Value} (plain : n.Plain)
    (shallow : outer + n.depth ≤ Node.maxDepth) : n.value? outer = some v ↔ n.Denotes v := by
  obtain ⟨w, read, denotes⟩ := denotes_of_plain n plain
  rw [Node.value?, if_pos shallow, read, Option.map_some, Option.some.injEq]
  exact ⟨fun same => same ▸ denotes, denotes.unique⟩

end ServiceHost.Json
