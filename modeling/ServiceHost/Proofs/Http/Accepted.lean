import ServiceHost.Proofs.Http.Envelope
import ServiceHost.Proofs.Json.Grammar
import ServiceHost.Proofs.Json.Meaning

/-! The texts that are read as an envelope. What counts is a code, a message and perhaps data, wherever they
stand in the document; nothing else in it makes a difference, and nothing that lacks them is taken. -/

namespace ServiceHost.Http

open Json (Node Value Numeral)

/-! ## Documents of envelopes -/

def Never (k : String) (members : List (Option String × Node)) : Prop := ∀ m ∈ members, m.1 ≠ some k

/-- Exactly one member has the key, and it has this value. -/
def Once (k : String) (v : Node) (members : List (Option String × Node)) : Prop :=
  ∃ before after, members = before ++ (some k, v) :: after ∧ Never k before ∧ Never k after

def AtMostOnce (k : String) : Option Node → List (Option String × Node) → Prop
  | some v, members => Once k v members
  | none, members => Never k members

/-- The code, the message and the data of a document. -/
inductive Parts : Node → Node → Node → Option Node → Prop
  | object {members : List (Option String × Node)} {code msg : Node} {data : Option Node}
      (coded : Once "code" code members) (told : Once "msg" msg members) (carried : AtMostOnce "data" data members) :
      Parts (.obj members) code msg data
  | array (code msg data : Node) : Parts (.arr [code, msg, data]) code msg (some data)

/-- An unsigned integer literal of this value. -/
inductive IsUnsigned : Node → Nat → Prop
  | mk {n : Numeral} (unsigned : n.negative = false) (whole : n.fraction = [] ∧ n.exponent = none) :
      IsUnsigned (.numeral n) n.magnitude

inductive IsText : Node → String → Prop
  | mk (s : String) : IsText (.text (some s)) s

def IsWord (n : Node) (k : UInt64) : Prop := IsUnsigned n k.toNat

inductive IsHealth : Node → Health → Prop
  | object {members : List (Option String × Node)} {status version : Node} {h : Health}
      (first : Once "status" status members) (second : Once "version" version members)
      (texts : IsText status h.status ∧ IsText version h.version) : IsHealth (.obj members) h
  | array {status version : Node} {h : Health} (texts : IsText status h.status ∧ IsText version h.version) :
      IsHealth (.arr [status, version]) h

/-- The types of data, with what is valid in each. -/
inductive DataType : {α : Type} → Format α → (Node → α → Prop) → Prop
  | any : DataType .any Node.Denotes
  | text : DataType .text IsText
  | word : DataType .word IsWord
  | health : DataType Health.format IsHealth

section

variable {α : Type} {f : Format α} {Valid : Node → α → Prop}

/-- Missing data and `null` are no data. -/
inductive Carries (Valid : Node → α → Prop) : Option Node → Option α → Prop
  | missing : Carries Valid none none
  | null : Carries Valid (some .null) none
  | datum {n : Node} {a : α} (present : n ≠ .null) (valid : Valid n a) : Carries Valid (some n) (some a)

def IsEnvelope (Valid : Node → α → Prop) (n : Node) (e : Envelope α) : Prop :=
  ∃ code msg data, Parts n code msg data ∧ IsUnsigned code e.code.toNat ∧ IsText msg e.msg ∧
    Carries Valid data e.data

/-! ## Members -/

theorem once_cons_self {k : String} {v w : Node} {members : List (Option String × Node)} :
    Once k v ((some k, w) :: members) ↔ w = v ∧ Never k members := by
  constructor
  · rintro ⟨before, after, same, noneBefore, noneAfter⟩
    cases before with
    | nil =>
      cases same
      exact ⟨rfl, noneAfter⟩
    | cons m before =>
      cases same
      exact absurd rfl (noneBefore _ List.mem_cons_self)
  · rintro ⟨rfl, none⟩
    exact ⟨[], members, rfl, nofun, none⟩

theorem once_cons_of_ne {k : String} {l : Option String} {v w : Node} {members : List (Option String × Node)}
    (other : l ≠ some k) : Once k v ((l, w) :: members) ↔ Once k v members := by
  constructor
  · rintro ⟨before, after, same, noneBefore, noneAfter⟩
    cases before with
    | nil =>
      cases same
      exact absurd rfl other
    | cons m before =>
      cases same
      exact ⟨before, after, rfl, fun m mem => noneBefore m (List.mem_cons_of_mem _ mem), noneAfter⟩
  · rintro ⟨before, after, rfl, noneBefore, noneAfter⟩
    exact ⟨(l, w) :: before, after, rfl, List.forall_mem_cons.2 ⟨other, noneBefore⟩, noneAfter⟩

/-- The members whose keys are these texts. -/
abbrev keyed (ms : List (String × Node)) : List (Option String × Node) := ms.map fun m => (some m.1, m.2)

theorem members?_of_plain {members : List (Option String × Node)} (plain : Node.MembersPlain members) :
    ∃ ms, Format.members? members = some ms ∧ members = keyed ms := by
  induction members with
  | nil => exact ⟨[], rfl, rfl⟩
  | cons m rest ih =>
    obtain ⟨k, v⟩ := m
    obtain ⟨k, rfl⟩ := Option.isSome_iff_exists.1 plain.1
    obtain ⟨ms, read, rfl⟩ := ih plain.2.2
    refine ⟨(k, v) :: ms, ?_, rfl⟩
    rw [Format.members?] at read ⊢
    simp [read]

theorem valuesOf_cons (k j : String) (w : Node) (ms : List (String × Node)) :
    Format.valuesOf k ((j, w) :: ms) = if j = k then w :: Format.valuesOf k ms else Format.valuesOf k ms := by
  by_cases same : j = k <;> simp [Format.valuesOf, same]

theorem valuesOf_eq_nil_iff {k : String} {ms : List (String × Node)} :
    Format.valuesOf k ms = [] ↔ Never k (keyed ms) := by
  rw [Never, keyed, List.forall_mem_map]
  simp [Format.valuesOf, List.filter_eq_nil_iff]

theorem valuesOf_eq_singleton_iff {k : String} {v : Node} {ms : List (String × Node)} :
    Format.valuesOf k ms = [v] ↔ Once k v (keyed ms) := by
  induction ms with
  | nil => exact ⟨nofun, fun ⟨before, _, same, _⟩ => by cases before <;> cases same⟩
  | cons m ms ih =>
    obtain ⟨j, w⟩ := m
    rw [valuesOf_cons, keyed, List.map_cons]
    split
    · next same =>
      rw [same, once_cons_self, List.cons.injEq, valuesOf_eq_nil_iff]
    · next other => rw [once_cons_of_ne (mt Option.some.inj other), ih]

theorem valuesOf_eq_toList_iff {k : String} {data : Option Node} {ms : List (String × Node)} :
    Format.valuesOf k ms = data.toList ↔ AtMostOnce k data (keyed ms) := by
  cases data with
  | none => exact valuesOf_eq_nil_iff
  | some v => exact valuesOf_eq_singleton_iff

theorem required?_eq_some_iff {k : String} {v : Node} {ms : List (String × Node)} :
    Format.required? k ms = some v ↔ Once k v (keyed ms) := by
  rw [← valuesOf_eq_singleton_iff, Format.required?]
  split
  · next w one => rw [one, Option.some.injEq, List.cons.injEq, and_iff_left rfl]
  · next other => exact ⟨fun same => absurd same.symm (Option.some_ne_none v), fun one => absurd one (other v)⟩

/-! ## Reading data -/

theorem readText?_eq_some_iff {n : Node} {s : String} : Format.readText? n = some s ↔ IsText n s := by
  constructor
  · intro read
    cases n with
    | text t => cases read; exact .mk s
    | _ => cases read
  · rintro ⟨⟩
    rfl

theorem readNatural?_eq_some_iff {n : Node} {max k : Nat} (plain : n.Plain) :
    Format.readNatural? max n = some k ↔ IsUnsigned n k ∧ k ≤ max := by
  cases n with
  | numeral n =>
    have plain : n.Plain := plain
    rw [Format.readNatural?, Json.number?_of_plain plain, Numeral.plainNumber]
    cases sign : n.negative with
    | false =>
      have read : (if n.magnitude ≤ max then some n.magnitude else none) = some k ↔
          IsUnsigned (.numeral n) k ∧ k ≤ max := by
        rw [Option.ite_none_right_eq_some, Option.some.injEq]
        constructor
        · rintro ⟨fits, rfl⟩
          exact ⟨.mk sign plain.whole, fits⟩
        · rintro ⟨⟨-, -⟩, fits⟩
          exact ⟨fits, rfl⟩
      exact read
    | true =>
      have signed : ¬ IsUnsigned (.numeral n) k := by
        rintro ⟨unsigned, -⟩
        rw [sign] at unsigned
        cases unsigned
      rw [if_pos rfl]
      refine ⟨fun read => ?_, fun unsigned => absurd unsigned.1 signed⟩
      cases magnitude : n.magnitude <;> rw [magnitude] at read <;> cases read
  | _ =>
    constructor
    · intro read
      cases read
    · rintro ⟨⟨⟩, -⟩

theorem isWord_iff {n : Node} {k : UInt64} (plain : n.Plain) : Format.word.read? n = some k ↔ IsWord n k := by
  have mapped : Format.word.read? n = some k ↔
      ∃ m, Format.readNatural? (UInt64.size - 1) n = some m ∧ UInt64.ofNat m = k := Option.map_eq_some_iff
  rw [mapped, IsWord]
  constructor
  · rintro ⟨m, read, rfl⟩
    obtain ⟨unsigned, fits⟩ := (readNatural?_eq_some_iff plain).1 read
    rwa [UInt64.toNat_ofNat_of_lt' (Nat.lt_of_le_sub_one (by decide) fits)]
  · intro unsigned
    exact ⟨_, (readNatural?_eq_some_iff plain).2 ⟨unsigned, Nat.le_sub_one_of_lt k.toNat_lt⟩, UInt64.ofNat_toNat⟩

theorem isHealth_iff {n : Node} {h : Health} (plain : n.Plain) : Health.read? n = some h ↔ IsHealth n h := by
  obtain ⟨status, version⟩ := h
  cases n with
  | obj members =>
    obtain ⟨ms, read, rfl⟩ := members?_of_plain plain
    simp only [Health.read?, read, Option.bind_eq_bind, Option.bind_some, Option.bind_eq_some_iff,
      required?_eq_some_iff, readText?_eq_some_iff, Option.pure_def, Option.some.injEq, Health.mk.injEq]
    constructor
    · rintro ⟨_, first, _, second, _, status, _, version, rfl, rfl⟩
      exact .object first second ⟨status, version⟩
    · rintro (@⟨_, _, _, _, first, second, status, version⟩ | _)
      exact ⟨_, first, _, second, _, status, _, version, rfl, rfl⟩
  | arr items =>
    constructor
    · intro read
      match items with
      | [first, second] =>
        simp only [Health.read?, Option.bind_eq_bind, Option.bind_eq_some_iff, readText?_eq_some_iff,
          Option.pure_def, Option.some.injEq, Health.mk.injEq] at read
        obtain ⟨_, status, _, version, rfl, rfl⟩ := read
        exact .array ⟨status, version⟩
    · rintro (_ | ⟨status, version⟩)
      simp only [Health.read?, Option.bind_eq_bind, Option.bind_eq_some_iff, readText?_eq_some_iff,
        Option.pure_def, Option.some.injEq, Health.mk.injEq]
      exact ⟨_, status, _, version, rfl, rfl⟩
  | _ => exact ⟨nofun, nofun⟩

theorem read?_eq_some_iff (type : DataType f Valid) {n : Node} {a : α} (plain : n.Plain) (shallow : n.depth ≤ 126) :
    f.read? n = some a ↔ Valid n a := by
  cases type with
  | any => exact Json.value?_eq_some_iff plain (by rw [Node.maxDepth]; omega)
  | text => exact readText?_eq_some_iff
  | word => exact isWord_iff plain
  | health => exact isHealth_iff plain

theorem readOptional?_eq_some_iff (type : DataType f Valid) {n : Node} {a : Option α} (plain : n.Plain)
    (shallow : n.depth ≤ 126) : Format.readOptional? f.read? n = some a ↔ Carries Valid (some n) a := by
  by_cases null : n = .null
  · subst null
    constructor
    · intro read
      cases read
      exact .null
    · rintro (_ | _ | ⟨present, -⟩)
      · rfl
      · exact absurd rfl present
  · rw [readOptional?_of_ne_null null, Option.map_eq_some_iff]
    constructor
    · rintro ⟨a, read, rfl⟩
      exact .datum null ((read?_eq_some_iff type plain shallow).1 read)
    · rintro (_ | _ | ⟨-, valid⟩)
      · exact absurd rfl null
      · exact ⟨_, (read?_eq_some_iff type plain shallow).2 valid, rfl⟩

/-! ## Reading envelopes -/

/-- The data that may be missing. -/
def carried? (f : Format α) : Option Node → Option (Option α)
  | none => some none
  | some n => Format.readOptional? f.read? n

theorem carried?_eq_some_iff (type : DataType f Valid) {data : Option Node} {a : Option α}
    (plain : ∀ n ∈ data, n.Plain ∧ n.depth ≤ 126) : carried? f data = some a ↔ Carries Valid data a := by
  cases data with
  | none =>
    constructor
    · intro read
      cases read
      exact .missing
    · rintro ⟨⟩
      rfl
  | some n => exact readOptional?_eq_some_iff type (plain n rfl).1 (plain n rfl).2

theorem ofParts?_eq_some {code msg : Node} {data : Option Node} {e : Envelope α} :
    Envelope.ofParts? f code msg data = some e ↔ ∃ k, Format.readNatural? (UInt16.size - 1) code = some k ∧
      ∃ t, Format.readText? msg = some t ∧ ∃ d, carried? f data = some d ∧ ⟨UInt16.ofNat k, t, d⟩ = e := by
  cases data <;>
    simp only [Envelope.ofParts?, carried?, Option.bind_eq_bind, Option.bind_eq_some_iff, Option.pure_def,
      Option.some.injEq, exists_eq_left']

theorem ofParts?_eq_some_iff (type : DataType f Valid) {code msg : Node} {data : Option Node} {e : Envelope α}
    (plain : code.Plain ∧ ∀ n ∈ data, n.Plain ∧ n.depth ≤ 126) :
    Envelope.ofParts? f code msg data = some e ↔
      IsUnsigned code e.code.toNat ∧ IsText msg e.msg ∧ Carries Valid data e.data := by
  simp only [ofParts?_eq_some, readNatural?_eq_some_iff plain.1, readText?_eq_some_iff,
    carried?_eq_some_iff type plain.2]
  constructor
  · rintro ⟨k, ⟨unsigned, fits⟩, t, text, d, carries, rfl⟩
    rw [UInt16.toNat_ofNat_of_lt' (Nat.lt_of_le_sub_one (by decide) fits)]
    exact ⟨unsigned, text, carries⟩
  · rintro ⟨unsigned, text, carries⟩
    have fits := Nat.le_sub_one_of_lt e.code.toNat_lt
    exact ⟨_, ⟨unsigned, fits⟩, _, text, _, carries, by rw [UInt16.ofNat_toNat]⟩

theorem plain_of_mem {members : List (Option String × Node)} (plain : Node.MembersPlain members)
    {m : Option String × Node} (mem : m ∈ members) : m.2.Plain ∧ m.2.depth ≤ Node.depthMembers members := by
  induction members with
  | nil => cases mem
  | cons first rest ih =>
    rw [Node.depthMembers]
    rcases List.mem_cons.1 mem with rfl | mem
    · exact ⟨plain.2.1, Nat.le_max_left _ _⟩
    · exact ⟨(ih plain.2.2 mem).1, (ih plain.2.2 mem).2.trans (Nat.le_max_right _ _)⟩

theorem Once.mem {k : String} {v : Node} {members : List (Option String × Node)} (once : Once k v members) :
    (some k, v) ∈ members := by
  obtain ⟨before, after, rfl, -, -⟩ := once
  simp

/-- The parts of a document are plain if it is, and stand inside one bracket. -/
theorem Parts.plain {n code msg : Node} {data : Option Node} (parts : Parts n code msg data) (plain : n.Plain)
    (shallow : n.depth ≤ 127) : code.Plain ∧ ∀ v ∈ data, v.Plain ∧ v.depth ≤ 126 := by
  cases parts with
  | @object members code msg data coded told carried =>
    refine ⟨(plain_of_mem plain coded.mem).1, ?_⟩
    rintro v rfl
    obtain ⟨plain, inside⟩ := plain_of_mem plain (Once.mem carried)
    rw [Node.depth] at shallow
    exact ⟨plain, inside.trans (by omega)⟩
  | array code msg data =>
    refine ⟨plain.1, ?_⟩
    rintro v ⟨⟩
    simp only [Node.depth, Node.depthItems] at shallow
    exact ⟨plain.2.2.1, by omega⟩

/-- A document is read by its parts. -/
theorem ofNode?_of_parts {n code msg : Node} {data : Option Node} (plain : n.Plain) (parts : Parts n code msg data) :
    Envelope.ofNode? f n = Envelope.ofParts? f code msg data := by
  cases parts with
  | @object members code msg data coded told carried =>
    obtain ⟨ms, read, rfl⟩ := members?_of_plain plain
    simp only [Envelope.ofNode?, read, Option.bind_eq_bind, Option.bind_some, required?_eq_some_iff.2 coded,
      required?_eq_some_iff.2 told, valuesOf_eq_toList_iff.2 carried]
    cases data <;> rfl
  | array code msg data => rfl

theorem parts_of_ofNode? {n : Node} {e : Envelope α} (plain : n.Plain) (read : Envelope.ofNode? f n = some e) :
    ∃ code msg data, Parts n code msg data := by
  cases n with
  | obj members =>
    obtain ⟨ms, listed, rfl⟩ := members?_of_plain plain
    simp only [Envelope.ofNode?, listed, Option.bind_eq_bind, Option.bind_some, Option.bind_eq_some_iff,
      required?_eq_some_iff] at read
    obtain ⟨code, coded, msg, told, read⟩ := read
    have carried : ∃ data : Option Node, Format.valuesOf "data" ms = data.toList := by
      split at read
      · next values => exact ⟨none, values⟩
      · next data values => exact ⟨some data, values⟩
      · cases read
    obtain ⟨data, carried⟩ := carried
    exact ⟨code, msg, data, .object coded told (valuesOf_eq_toList_iff.1 carried)⟩
  | arr items =>
    rcases items with _ | ⟨code, _ | ⟨msg, _ | ⟨data, _ | ⟨more, rest⟩⟩⟩⟩
    · cases read
    · cases read
    · cases read
    · exact ⟨code, msg, some data, .array code msg data⟩
    · cases read
  | _ => cases read

theorem ofNode?_eq_some_iff (type : DataType f Valid) {n : Node} {e : Envelope α} (plain : n.Plain)
    (shallow : n.depth ≤ 127) : Envelope.ofNode? f n = some e ↔ IsEnvelope Valid n e := by
  constructor
  · intro read
    obtain ⟨code, msg, data, parts⟩ := parts_of_ofNode? plain read
    rw [ofNode?_of_parts plain parts, ofParts?_eq_some_iff type (parts.plain plain shallow)] at read
    exact ⟨code, msg, data, parts, read⟩
  · rintro ⟨code, msg, data, parts, valid⟩
    rw [ofNode?_of_parts plain parts]
    exact (ofParts?_eq_some_iff type (parts.plain plain shallow)).2 valid

theorem ofString?_eq_some_iff {s : String} {e : Envelope α} :
    Envelope.ofString? f s = some e ↔ ∃ n : Node, n.WrittenAs s ∧ Envelope.ofNode? f n = some e := by
  simp only [Envelope.ofString?, Option.bind_eq_some_iff, Json.ofString?_eq_some_iff]

/-- An envelope is read from a text exactly if the text is a document of that envelope, and the parts are all that
matters. -/
theorem envelope_is_read_iff_written (type : DataType f Valid) {s : String}
    (tame : ∀ n : Node, n.WrittenAs s → n.Plain ∧ n.depth ≤ 127) :
    (∀ e, Envelope.ofString? f s = some e ↔ ∃ n : Node, n.WrittenAs s ∧ IsEnvelope Valid n e) ∧
    (∀ s' (n n' : Node) code msg data, n.WrittenAs s → n'.WrittenAs s' → n'.Plain →
      Parts n code msg data → Parts n' code msg data → Envelope.ofString? f s' = Envelope.ofString? f s) := by
  constructor
  · intro e
    rw [ofString?_eq_some_iff]
    refine exists_congr fun n => and_congr_right fun written => ?_
    exact ofNode?_eq_some_iff type (tame n written).1 (tame n written).2
  · intro s' n n' code msg data written written' plain' parts parts'
    rw [Envelope.ofString?, Envelope.ofString?, Json.ofString?_eq_some_iff.2 written,
      Json.ofString?_eq_some_iff.2 written', Option.bind_some, Option.bind_some,
      ofNode?_of_parts (tame n written).1 parts, ofNode?_of_parts plain' parts']

end

/-- The message comes first and is written with an escape; there are no data. -/
theorem reordered_envelope_is_read :
    let s := "\x7b\"msg\": \"\\u0041\",\"code\":7\x7d"
    ∃ n : Node, n.WrittenAs s ∧ IsEnvelope IsWord n ⟨7, "A", none⟩ := by
  intro s
  let node : Node := .obj [(some "msg", .text (some "A")), (some "code", .numeral ⟨false, [7], [], none⟩)]
  have chars : s.toList = ['\x7b', '"', 'm', 's', 'g', '"', ':', ' ', '"', '\\', 'u', '0', '0', '4', '1', '"', ',',
      '"', 'c', 'o', 'd', 'e', '"', ':', '7', '\x7d'] := by simp [s]
  have length : s.length = 26 := by rw [← String.length_toList, chars]; rfl
  have lexed : Json.tokens s = some node.tokens := by rw [Json.tokens, length, chars]; rfl
  have read : Node.ofString? s = some node := by rw [Node.ofString?, lexed]; rfl
  have written : node.WrittenAs s := Json.ofString?_eq_some_iff.1 read
  have tame : ∀ n : Node, n.WrittenAs s → n.Plain ∧ n.depth ≤ 127 := by
    intro n other
    obtain rfl : node = n := Option.some.inj (read.symm.trans (Json.ofString?_eq_some_iff.2 other))
    exact ⟨⟨rfl, rfl, rfl, ⟨⟨rfl, rfl⟩, by decide⟩, trivial⟩, by decide⟩
  exact ((envelope_is_read_iff_written .word tame).1 _).1 (by rw [Envelope.ofString?, read]; rfl)

end ServiceHost.Http
