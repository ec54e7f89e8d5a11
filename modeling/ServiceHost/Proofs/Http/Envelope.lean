import ServiceHost.Http.Health
import ServiceHost.Proofs.Json.Document

/-! An envelope survives its text. Code, message and data are read back as they were written, except
that a `null` among the data of any type is read as no data. -/

namespace ServiceHost.Http

open Json (Node Value)

/-- What is sent as data, and what arrives. -/
inductive Arrives : {α : Type} → Format α → Option α → Option α → Prop
  | absent {α : Type} (f : Format α) : Arrives f none none
  | null : Arrives .any (some .null) none
  | value {v : Value} (present : v ≠ .null) (plain : v.Integral) (sorted : v.Sorted)
      (shallow : v.depth ≤ 126) : Arrives .any (some v) (some v)
  | text (s : String) : Arrives .text (some s) (some s)
  | word (n : UInt64) : Arrives .word (some n) (some n)
  | health (h : Health) : Arrives Health.format (some h) (some h)

section

variable {α : Type} {f : Format α} {sent got : Option α}

theorem readNatural?_ofNat {n max : Nat} (fits : n ≤ max) (small : max ≤ Json.maxWord) :
    Format.readNatural? max (Value.ofNat n).node = some n := by
  have number : (Json.Numeral.ofInt n).number? = some (.int n) :=
    Json.number?_ofInt (by omega) (by omega)
  simp [Value.ofNat, Value.node, Format.readNatural?, number, fits]

theorem Arrives.integral (arrives : Arrives f sent got) : (Value.ofOption f.write sent).Integral := by
  cases arrives with
  | absent | null => trivial
  | value _ plain sorted _ =>
    simpa [Value.ofOption, Format.any, Json.canonical_of_sorted _ sorted] using plain
  | text s => trivial
  | word n =>
    have := n.toNat_lt
    simp only [Value.ofOption, Format.word, Value.ofNat, Value.Integral, Json.maxWord]
    omega
  | health h => exact ⟨trivial, trivial, trivial⟩

theorem readOptional?_of_ne_null {read? : Node → Option α} {v : Node} (present : v ≠ .null) :
    Format.readOptional? read? v = (read? v).map some := by
  unfold Format.readOptional?
  split
  · exact absurd rfl present
  · rfl

theorem Arrives.read (arrives : Arrives f sent got) :
    Format.readOptional? f.read? (Value.ofOption f.write sent).node = some got := by
  cases arrives with
  | absent | null => rfl
  | @value v present plain sorted shallow =>
    have read : v.node.value? 1 = some v :=
      Json.value?_node plain sorted (by simp only [Node.maxDepth]; omega)
    simp only [Value.ofOption, Format.any, Json.canonical_of_sorted v sorted]
    rw [readOptional?_of_ne_null (Value.node_ne_null plain present), read, Option.map_some]
  | text s => rfl
  | word n =>
    have word : Format.readNatural? (UInt64.size - 1) (Value.ofNat n.toNat).node = some n.toNat :=
      readNatural?_ofNat (Nat.le_sub_one_of_lt n.toNat_lt) (Nat.le_refl _)
    have read : Format.word.read? (Value.ofNat n.toNat).node = some n :=
      (congrArg (Option.map UInt64.ofNat) word).trans (by simp)
    exact congrArg (Option.map some) read
  | health h => rfl

/-- What arrives would have been sent as the same text. -/
theorem Arrives.same (arrives : Arrives f sent got) :
    Value.ofOption f.write got = Value.ofOption f.write sent := by
  cases arrives <;> rfl

end

/-- The document that an envelope is written as. -/
def Envelope.node (f : Format α) (e : Envelope α) : Node :=
  .obj [(some "code", .numeral (.ofInt e.code.toNat)), (some "msg", .text (some e.msg)),
    (some "data", (Value.ofOption f.write e.data).node)]

theorem ofString?_text {f : Format α} {e : Envelope α}
    (integral : (Value.ofOption f.write e.data).Integral) :
    Node.ofString? (e.text f) = some (e.node f) := by
  have code : (Value.ofNat e.code.toNat).Integral := by
    have := e.code.toNat_lt
    simp only [Value.ofNat, Value.Integral, Json.maxWord]
    omega
  exact Json.ofString?_compact ⟨code, trivial, integral, trivial⟩

theorem ofNode?_node (f : Format α) (e : Envelope α) :
    Envelope.ofNode? f (e.node f) =
      (Format.readOptional? f.read? (Value.ofOption f.write e.data).node).map
        fun data => { e with data } := by
  have code : Format.readNatural? 65535 (.numeral (.ofInt e.code.toNat)) = some e.code.toNat :=
    readNatural?_ofNat (Nat.le_of_lt_succ e.code.toNat_lt) (by decide)
  cases read : Format.readOptional? f.read? (Value.ofOption f.write e.data).node <;>
    simp [Envelope.node, Envelope.ofNode?, Format.members?, Format.required?, Format.valuesOf,
      Envelope.ofParts?, code, Format.readText?, read]

/-- An envelope is read back from its text, from a response too. -/
theorem envelope_arrives {f : Format α} {e : Envelope α} {data : Option α}
    (arrives : Arrives f e.data data) :
    Envelope.ofString? f (e.text f) = some { e with data } ∧
    (∃ datum, Node.ofString? (e.text f) = some (.obj [(some "code", .numeral (.ofInt e.code.toNat)),
      (some "msg", .text (some e.msg)), (some "data", datum)])) ∧
    ({ e with data } : Envelope α).text f = e.text f ∧
    (e.response f).body = e.text f ∧
    (e.response f).status =
      if 100 ≤ e.code.toNat ∧ e.code.toNat ≤ 999 then e.code.toNat else 500 := by
  have document := ofString?_text arrives.integral
  refine ⟨?_, ⟨_, document⟩, ?_, rfl, ?_⟩
  · rw [Envelope.ofString?, document, Option.bind_some, ofNode?_node, arrives.read, Option.map_some]
  · simp only [Envelope.text, Envelope.toJson, arrives.same]
  · simp [Envelope.response, statusOf]

theorem nested_data_arrives :
    let list : Value := .arr [.null, .num (.int 18446744073709551615), .str "\t/\u007f"]
    let e : Envelope Value := ⟨404, "\"q\" \\ \x01", some (.obj [("a", list), ("b", .obj [])])⟩
    Arrives .any e.data e.data ∧ Envelope.ofString? .any (e.text .any) = some e := by
  intro list e
  have ascend : "a" < "b" := by decide
  have arrives : Arrives .any e.data e.data :=
    .value Value.noConfusion
      (by simp [list, Value.Integral, Value.ItemsIntegral, Value.MembersIntegral, Json.maxWord])
      (by simpa [list, Value.Sorted, Value.ItemsSorted, Value.MembersSorted] using ascend)
      (by decide)
  exact ⟨arrives, (envelope_arrives arrives).1⟩

/-- One level more and the data are refused. -/
theorem deeper_data_is_refused (code : UInt16) (msg : String) {v : Value} (plain : v.Integral)
    (sorted : v.Sorted) (deep : 126 < v.depth) :
    Envelope.ofString? .any (Envelope.text .any ⟨code, msg, some v⟩) = none := by
  have same : Value.ofOption Format.any.write (some v) = v := Json.canonical_of_sorted v sorted
  have refused : v.node.value? 1 = none := by
    rw [Node.value?, if_neg]
    simp only [Node.maxDepth, Value.depth_node]
    omega
  have present : v ≠ .null := fun null => by simp [null, Value.depth] at deep
  rw [Envelope.ofString?, ofString?_text (by rwa [same]), Option.bind_some, ofNode?_node, same,
    readOptional?_of_ne_null (Value.node_ne_null plain present)]
  simp [Format.any, refused]

end ServiceHost.Http
