import Mathlib.Algebra.Group.Nat.Defs
import Mathlib.Data.List.TakeWhile
import ServiceHost.Config.Validation
import ServiceHost.Proofs.Text.Digit

/-! Endpoints: a host and a port on the two sides of the last colon. What the check accepts is compared with a
grammar, in which a number is worth the sum of its digits by their places. -/

namespace ServiceHost.Net

open Text

/-! ## Ports -/

def IsDecimal (c : Char) : Prop := '0' ≤ c ∧ c ≤ '9'

/-- Decimal digits, at least one. -/
structure IsNumeral (w : List Char) : Prop where
  nonempty : w ≠ []
  digits : ∀ c ∈ w, IsDecimal c

/-- The number that decimal digits write, each counted by its place. -/
def placeValue : List Char → Nat
  | [] => 0
  | c :: w => (c.toNat - '0'.toNat) * 10 ^ w.length + placeValue w

/-- How a port is written: a number of at most 65535, perhaps after one plus sign. -/
inductive WritesPort : List Char → Prop where
  | plain {w : List Char} (numeral : IsNumeral w) (fits : placeValue w ≤ 65535) : WritesPort w
  | signed {w : List Char} (numeral : IsNumeral w) (fits : placeValue w ≤ 65535) : WritesPort ('+' :: w)

theorem digit?_of_decimal {c : Char} (decimal : IsDecimal c) : digit? 10 c = some (c.toNat - '0'.toNat) := by
  have range : 48 ≤ c.toNat ∧ c.toNat ≤ 57 := decimal
  have small : c.toNat - 48 < 10 := by omega
  simp [digit?, decimal.1, decimal.2, small]

theorem decimal_of_digit? {c : Char} {d : Nat} (read : digit? 10 c = some d) : IsDecimal c := by
  obtain ⟨small, rfl⟩ := digit?_ten_eq_some_iff.1 read
  have known : ∀ d < 10, '0' ≤ Nat.digitChar d ∧ Nat.digitChar d ≤ '9' := by decide
  exact known d small

/-- By induction over the characters. -/
theorem mapM_digit?_eq_some_iff {w : List Char} {ds : List Nat} :
    w.mapM (digit? 10) = some ds ↔ (∀ c ∈ w, IsDecimal c) ∧ ds = w.map (·.toNat - '0'.toNat) := by
  induction w generalizing ds with
  | nil => simp [eq_comm]
  | cons c w ih =>
    simp only [List.mapM_cons, Option.bind_eq_bind, Option.bind_eq_some_iff, Option.pure_def, Option.some.injEq, ih,
      List.forall_mem_cons, List.map_cons]
    constructor
    · rintro ⟨d, read, _, ⟨decimals, rfl⟩, rfl⟩
      have decimal := decimal_of_digit? read
      rw [digit?_of_decimal decimal, Option.some.injEq] at read
      exact ⟨⟨decimal, decimals⟩, by rw [read]⟩
    · rintro ⟨⟨decimal, decimals⟩, rfl⟩
      exact ⟨_, digit?_of_decimal decimal, _, ⟨decimals, rfl⟩, rfl⟩

/-- Reading from the left gives every digit its place. -/
theorem digitsValue_map (w : List Char) : digitsValue 10 (w.map (·.toNat - '0'.toNat)) = placeValue w := by
  have onto (n : Nat) : (w.map (·.toNat - '0'.toNat)).foldl (fun n d => n * 10 + d) n =
      n * 10 ^ w.length + placeValue w := by
    induction w generalizing n with
    | nil => simp [placeValue]
    | cons c w ih =>
      rw [List.map_cons, List.foldl_cons, ih, placeValue, List.length_cons, Nat.pow_succ, Nat.add_mul]
      rw [Nat.mul_assoc, Nat.mul_comm 10, Nat.add_assoc]
  rw [digitsValue, onto, Nat.zero_mul, Nat.zero_add]

theorem natural?_eq_some_iff {w : List Char} {n : Nat} : natural? w = some n ↔ IsNumeral w ∧ n = placeValue w := by
  simp only [natural?, Option.bind_eq_bind, Option.bind_eq_some_iff, mapM_digit?_eq_some_iff]
  constructor
  · rintro ⟨_, ⟨decimals, rfl⟩, value⟩
    rw [digitsValue_map] at value
    split at value
    · cases value
    · next some =>
      exact ⟨⟨by simpa using some, decimals⟩, (Option.some.inj value).symm⟩
  · rintro ⟨⟨nonempty, decimals⟩, rfl⟩
    refine ⟨_, ⟨decimals, rfl⟩, ?_⟩
    rw [digitsValue_map, if_neg (by simpa using nonempty)]

theorem IsNumeral.head_ne_plus {w : List Char} (numeral : IsNumeral ('+' :: w)) : False := by
  have plus : ¬ IsDecimal '+' := by simp [IsDecimal]
  exact plus (numeral.digits '+' List.mem_cons_self)

theorem isSome_port?_iff {w : List Char} : (port? w).isSome = true ↔ WritesPort w := by
  have bounded {v : List Char} : ((natural? v).bind fun n => if 65535 < n then none else some n).isSome = true ↔
      IsNumeral v ∧ placeValue v ≤ 65535 := by
    simp only [Option.isSome_iff_exists, Option.bind_eq_some_iff, natural?_eq_some_iff, and_assoc]
    simp
  simp only [port?, unsigned?, Option.bind_eq_bind]
  split
  · next v =>
    rw [bounded]
    constructor
    · rintro ⟨numeral, fits⟩
      exact .signed numeral fits
    · intro writes
      cases writes with
      | plain numeral _ => exact numeral.head_ne_plus.elim
      | signed numeral fits => exact ⟨numeral, fits⟩
  · next unsigned =>
    rw [bounded]
    constructor
    · rintro ⟨numeral, fits⟩
      exact .plain numeral fits
    · intro writes
      cases writes with
      | plain numeral fits => exact ⟨numeral, fits⟩
      | signed _ _ => exact absurd rfl (unsigned _)

theorem WritesPort.no_colon {w : List Char} (writes : WritesPort w) : ':' ∉ w := by
  have colon : ¬ IsDecimal ':' := by simp [IsDecimal]
  cases writes with
  | plain numeral _ => exact fun mem => colon (numeral.digits ':' mem)
  | signed numeral _ =>
    intro mem
    rcases List.mem_cons.1 mem with same | mem
    · cases same
    · exact colon (numeral.digits ':' mem)

/-! ## The last colon -/

theorem splitLastColon_eq_some_iff {s host port : List Char} :
    splitLastColon s = some (host, port) ↔ s = host ++ ':' :: port ∧ ':' ∉ port := by
  unfold splitLastColon
  constructor
  · intro split
    have whole := List.takeWhile_append_dropWhile (p := (· != ':')) (l := s.reverse)
    have none (c) (mem : c ∈ s.reverse.takeWhile (· != ':')) : c ≠ ':' := by
      simpa using List.mem_takeWhile_imp mem
    have stops := List.head_dropWhile_not (· != ':') (l := s.reverse)
    generalize s.reverse.takeWhile (· != ':') = back at split whole none
    generalize s.reverse.dropWhile (· != ':') = rest at split whole stops
    cases rest with
    | nil => cases split
    | cons c front =>
      obtain ⟨rfl, rfl⟩ := Prod.mk.inj (Option.some.inj split)
      have colon : c = ':' := by simpa using stops (by simp)
      have turned := congrArg List.reverse whole
      rw [List.reverse_reverse, colon] at turned
      constructor
      · simpa using turned.symm
      · intro mem
        exact none _ (List.mem_reverse.1 mem) rfl
  · rintro ⟨rfl, none⟩
    have passed : ∀ c ∈ port.reverse, (c != ':') = true := by
      intro c mem
      rw [bne_iff_ne]
      rintro rfl
      exact none (List.mem_reverse.1 mem)
    have turned : (host ++ ':' :: port).reverse = port.reverse ++ ':' :: host.reverse := by simp
    rw [turned, List.takeWhile_append_of_pos passed, List.dropWhile_append_of_pos passed]
    simp

end ServiceHost.Net

namespace ServiceHost.Config

open Net

/-! ## Endpoints -/

/-- An endpoint, cut into its host and its port. -/
structure CutsInto (v host port : String) : Prop where
  whole : v = host ++ ":" ++ port
  host : host ≠ ""
  port : WritesPort port.toList

/-- A host that is not empty and a port, with a colon between them. -/
def IsHostPort (v : String) : Prop := ∃ host port, CutsInto v host port

namespace CutsInto

variable {v host port host' port' : String}

theorem splitLastColon (cuts : CutsInto v host port) :
    splitLastColon v.toList = some (host.toList, port.toList) := by
  rw [splitLastColon_eq_some_iff, cuts.whole]
  exact ⟨by simp, cuts.port.no_colon⟩

theorem of_splitLastColon (split : Net.splitLastColon v.toList = some (host.toList, port.toList))
    (nonempty : host ≠ "") (writes : WritesPort port.toList) : CutsInto v host port := by
  obtain ⟨whole, -⟩ := splitLastColon_eq_some_iff.1 split
  exact ⟨String.toList_injective (by simpa using whole), nonempty, writes⟩

theorem unique (cuts : CutsInto v host port) (cuts' : CutsInto v host' port') : host' = host ∧ port' = port := by
  have same := cuts'.splitLastColon.symm.trans cuts.splitLastColon
  simpa [String.toList_inj] using same

/-- What stands in front of an endpoint becomes part of its host. -/
theorem prepend (cuts : CutsInto v host port) (t : String) : CutsInto (t ++ v) (t ++ host) port where
  whole := by rw [cuts.whole, String.append_assoc, String.append_assoc, String.append_assoc]
  host := by simp [cuts.host]
  port := cuts.port

end CutsInto

theorem isEndpoint_iff {v : String} : isEndpoint v = true ↔ IsHostPort v := by
  constructor
  · intro valid
    unfold isEndpoint at valid
    split at valid
    · next host port split =>
      rw [Bool.and_eq_true, isSome_port?_iff] at valid
      obtain ⟨nonempty, writes⟩ := valid
      refine ⟨String.ofList host, String.ofList port, .of_splitLastColon (by simpa using split) ?_ (by simpa)⟩
      simpa using nonempty
    · cases valid
  · rintro ⟨host, port, cuts⟩
    have writes := isSome_port?_iff.2 cuts.port
    have nonempty := cuts.host
    simp [isEndpoint, cuts.splitLastColon, writes, nonempty]

instance : DecidablePred IsHostPort := fun _ => decidable_of_iff _ isEndpoint_iff

theorem checkEndpoint_eq_nil_iff {field v : String} : checkEndpoint field v = [] ↔ IsHostPort v := by
  rw [← isEndpoint_iff, checkEndpoint]
  split <;> simp_all

/-- An endpoint is a host and a port in exactly one way, and text in front of it belongs to its host. -/
theorem endpoints_are_hosts_with_ports (field v : String) :
    (checkEndpoint field v = [] ↔ ∃! cut : String × String, CutsInto v cut.1 cut.2) ∧
      ∀ host port t, CutsInto v host port →
        CutsInto (t ++ v) (t ++ host) port ∧ checkEndpoint field (t ++ v) = [] := by
  constructor
  · rw [checkEndpoint_eq_nil_iff]
    constructor
    · rintro ⟨host, port, cuts⟩
      refine ⟨(host, port), cuts, ?_⟩
      rintro ⟨host', port'⟩ cuts'
      obtain ⟨rfl, rfl⟩ := cuts.unique cuts'
      rfl
    · rintro ⟨⟨host, port⟩, cuts, -⟩
      exact ⟨host, port, cuts⟩
  · intro host port t cuts
    have longer := cuts.prepend t
    exact ⟨longer, checkEndpoint_eq_nil_iff.2 ⟨_, _, longer⟩⟩

/-- A host with colons of its own, and a port with a sign and zeros. -/
theorem endpoints_are_hosts_with_ports_for_colons :
    CutsInto "[::1]:+02379" "[::1]" "+02379" ∧ checkEndpoint "endpoint" "etcd.[::1]:+02379" = [] := by
  have cuts : CutsInto "[::1]:+02379" "[::1]" "+02379" :=
    ⟨by decide, by decide, isSome_port?_iff.1 (by decide)⟩
  exact ⟨cuts, ((endpoints_are_hosts_with_ports "endpoint" "[::1]:+02379").2 _ _ "etcd." cuts).2⟩

example : ["h:0000065535", "h:65536", "h:+", "h:", ":1", "h"].map isEndpoint =
    [true, false, false, false, false, false] := by
  decide

end ServiceHost.Config
