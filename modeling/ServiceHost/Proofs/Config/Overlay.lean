import ServiceHost.Proofs.Config.Settings

/-! A configuration laid over its defaults. What a JSON document gives for a field takes the place of the
default, and a document that gives something of the wrong form is refused as a whole. So neither the order
of members nor members that are no field's make a difference, nor does writing a record as an array. -/

namespace ServiceHost.Config

open Document

/-! ## Fields and what they hold -/

inductive FieldType where
  | text | natural | flag | texts | format

/-- The value that a JSON value is for a field of this type. -/
inductive FieldType.Reads : FieldType → Json.Value → Setting → Prop
  | text (s : String) : Reads text (.str s) (.text s)
  | natural {n : Nat} (fits : n ≤ maxWord) : Reads natural (.num (.int n)) (.natural n)
  | flag (b : Bool) : Reads flag (.bool b) (.flag b)
  | texts (ss : List String) : Reads texts (.arr (ss.map .str)) (.texts ss)
  | format (l : LogFormat) : Reads format (.str l.name) (.text l.name)
  /-- An object with the name as its only key. -/
  | formatKey (l : LogFormat) : Reads format (.obj [(l.name, .null)]) (.text l.name)

/-- The fields of a record in their order. -/
abbrev Shape := List (String × FieldType)

def Server.shape : Shape :=
  [("bind_address", .text), ("request_timeout_secs", .natural), ("max_body_bytes", .natural)]

def Coordination.shape : Shape := [("enabled", .flag), ("endpoints", .texts), ("dial_timeout_secs", .natural)]

def Lifecycle.shape : Shape :=
  [("shutdown_timeout_ms", .natural), ("startup_timeout_ms", .natural), ("handle_signals", .flag)]

def Observability.shape : Shape :=
  [("log_level", .text), ("log_format", .format), ("metrics_enabled", .flag), ("metrics_address", .text)]

/-- The sections of a configuration in their order. -/
def layout : List (String × Shape) :=
  [("server", Server.shape), ("coordination", Coordination.shape), ("lifecycle", Lifecycle.shape),
    ("observability", Observability.shape)]

/-- An object, or an array of at most so many items. -/
def IsRecord (fields : Nat) : Json.Value → Prop
  | .obj _ => True
  | .arr items => items.length ≤ fields
  | _ => False

/-- What a record gives for the field with this position and key. -/
def part? (v : Json.Value) (position : Nat) (key : String) : Option Json.Value :=
  match v with
  | .obj members => members.lookup key
  | .arr items => items[position]?
  | _ => none

/-- The key and type of a field, its position, and the name and position of its section. -/
def FieldAt (i : Nat) (n : String) (j : Nat) (k : String) (t : FieldType) : Prop :=
  ∃ shape, layout[i]? = some (n, shape) ∧ shape[j]? = some (k, t)

/-- What a document gives for a field of a section. -/
def given? (v : Json.Value) (i : Nat) (n : String) (j : Nat) (k : String) : Option Json.Value :=
  (part? v i n).bind (part? · j k)

/-- The configuration that a document lays over the defaults. -/
structure Overlays (v : Json.Value) (c : ServiceHost.Config) : Prop where
  root : IsRecord layout.length v
  inside : ∀ {i n shape s}, layout[i]? = some (n, shape) → part? v i n = some s → IsRecord shape.length s
  given : ∀ {i n j k t w}, FieldAt i n j k t → given? v i n j k = some w →
    ∃ x, t.Reads w x ∧ c.setting? n k = some x
  left : ∀ {i n j k t}, FieldAt i n j k t → given? v i n j k = none →
    c.setting? n k = setting? {} n k

/-! ## Reading one field -/

theorem field?_ofJson (v : Json.Value) (j : Nat) (k : String) :
    (ofJson v).field? j k = (part? v j k).map ofJson := by
  cases v with
  | obj members => exact field?_ofMembers members k
  | arr items =>
    have same : ofItems items = items.map ofJson := by
      induction items with
      | nil => rfl
      | cons v rest ih => rw [ofItems, List.map_cons, ih]
    simp [part?, ofJson, field?, same]
  | num n => cases n <;> rfl
  | null => rfl
  | bool b => rfl
  | str s => rfl

theorem isSection_ofJson (v : Json.Value) (n : Nat) : (ofJson v).isSection false n = true ↔ IsRecord n v := by
  cases v with
  | arr items =>
    have same : (ofItems items).length = items.length := by
      induction items with
      | nil => rfl
      | cons v rest ih => rw [ofItems, List.length_cons, List.length_cons, ih]
    simp [ofJson, isSection, IsRecord, same]
  | num n => cases n <;> simp [ofJson, isSection, IsRecord]
  | obj members => simp [ofJson, isSection, IsRecord]
  | null => simp [ofJson, isSection, IsRecord]
  | bool b => simp [ofJson, isSection, IsRecord]
  | str s => simp [ofJson, isSection, IsRecord]

/-- A type of field with its decoder and the settings that it stands for. -/
structure Decodes {α : Type} (t : FieldType) (decode : Document → Option α) (encode : α → Setting) : Prop where
  reads : ∀ {v a}, decode (ofJson v) = some a ↔ t.Reads v (encode a)
  once : ∀ {a b}, encode a = encode b → a = b

theorem decodes_text : Decodes .text text? Setting.text := by
  refine ⟨fun {v s} => ⟨fun read => ?_, ?_⟩, Setting.text.inj⟩
  · cases v with
    | str s => cases read; exact .text s
    | num n => cases n <;> cases read
    | _ => cases read
  · rintro ⟨⟩
    rfl

theorem decodes_flag : Decodes .flag boolean? Setting.flag := by
  refine ⟨fun {v b} => ⟨fun read => ?_, ?_⟩, Setting.flag.inj⟩
  · cases v with
    | bool b => cases read; exact .flag b
    | num n => cases n <;> cases read
    | _ => cases read
  · rintro ⟨⟩
    rfl

theorem decodes_natural : Decodes .natural natural? Setting.natural := by
  refine ⟨fun {v m} => ⟨fun read => ?_, ?_⟩, Setting.natural.inj⟩
  · cases v with
    | num n =>
      cases n with
      | int n =>
        cases n with
        | ofNat n =>
          simp only [ofJson, natural?, Option.ite_none_right_eq_some, Option.some.injEq] at read
          obtain ⟨fits, rfl⟩ := read
          exact .natural fits
        | negSucc n => cases read
      | float bits => cases read
    | _ => cases read
  · rintro ⟨⟩
    next fits => exact if_pos fits

theorem mapM_text?_eq_some {items : List Json.Value} {ss : List String} :
    (ofItems items).mapM text? = some ss ↔ items = ss.map .str := by
  induction items generalizing ss with
  | nil => cases ss <;> simp [ofItems]
  | cons v rest ih =>
    rw [ofItems, List.mapM_cons]
    constructor
    · intro read
      simp only [Option.bind_eq_bind, Option.bind_eq_some_iff, Option.pure_def, Option.some.injEq] at read
      obtain ⟨s, first, more, others, rfl⟩ := read
      obtain ⟨⟩ := decodes_text.reads.1 first
      rw [ih.1 others, List.map_cons]
    · intro same
      cases ss with
      | nil => cases same
      | cons s ss =>
        obtain ⟨rfl, rfl⟩ := List.cons.inj same
        rw [ih.2 rfl]
        rfl

theorem decodes_texts : Decodes .texts texts? Setting.texts := by
  refine ⟨fun {v ss} => ⟨fun read => ?_, ?_⟩, Setting.texts.inj⟩
  · cases v with
    | arr items =>
      rw [mapM_text?_eq_some.1 read]
      exact .texts ss
    | num n => cases n <;> cases read
    | _ => cases read
  · rintro ⟨⟩
    exact mapM_text?_eq_some.2 rfl

theorem ofName?_eq_some {s : String} {l : LogFormat} : LogFormat.ofName? s = some l ↔ s = l.name := by
  constructor
  · intro read
    unfold LogFormat.ofName? at read
    split at read <;> cases read <;> rfl
  · rintro rfl
    cases l <;> rfl

theorem decode_logFormat_obj {members : List (String × Json.Value)} {l : LogFormat} :
    LogFormat.decode .json (ofJson (.obj members)) = some l ↔ members = [(l.name, .null)] := by
  constructor
  · intro read
    match members with
    | [] => cases read
    | [(k, v)] =>
      have unit : (Format.json.isUnit (ofJson v)) = true ∧ LogFormat.ofName? k = some l := by
        simpa [LogFormat.decode, ofJson, ofMembers] using read
      obtain ⟨unit, name⟩ := unit
      rw [ofName?_eq_some.1 name]
      cases v with
      | null => rfl
      | num n => cases n <;> cases unit
      | _ => cases unit
    | _ :: _ :: _ => cases read
  · rintro rfl
    exact ofName?_eq_some.2 rfl

theorem decodes_format : Decodes .format (LogFormat.decode .json) fun l => .text l.name := by
  refine ⟨fun {v l} => ⟨fun read => ?_, fun reads => ?_⟩, LogFormat.name_injective⟩
  · cases v with
    | str s =>
      obtain rfl := ofName?_eq_some.1 read
      exact .format l
    | obj members =>
      rw [decode_logFormat_obj.1 read]
      exact .formatKey l
    | num n => cases n <;> cases read
    | _ => cases read
  · generalize named : Setting.text l.name = x at reads
    cases reads with
    | format m =>
      rw [LogFormat.name_injective named]
      exact decode_logFormat .json m
    | formatKey m =>
      rw [LogFormat.name_injective named]
      exact decode_logFormat_obj.2 rfl

/-- A field is what is given for it, or its default. -/
def FieldIs (t : FieldType) (given : Option Json.Value) (default x : Setting) : Prop :=
  match given with
  | some w => t.Reads w x
  | none => x = default

theorem Decodes.fieldD_eq_some {α : Type} {t : FieldType} {decode : Document → Option α} {encode : α → Setting}
    (decodes : Decodes t decode encode) {v : Json.Value} {j : Nat} {k : String} {default a : α} :
    (ofJson v).fieldD j k decode default = some a ↔
      FieldIs t (part? v j k) (encode default) (encode a) := by
  rw [Document.fieldD, field?_ofJson]
  cases part? v j k with
  | none =>
    exact ⟨fun same => by rw [Option.some.inj same]; rfl, fun same => congrArg some (decodes.once same.symm)⟩
  | some w => exact decodes.reads

/-! ## Sections -/

/-- The fields of a section, laid over the defaults. -/
def SectionIs (shape : Shape) (defaults fields : Fields) (v : Json.Value) : Prop :=
  IsRecord shape.length v ∧ ∀ j k t, shape[j]? = some (k, t) →
    ∃ default x, defaults.lookup k = some default ∧ fields.lookup k = some x ∧
      FieldIs t (part? v j k) default x

theorem forall_shape_cons {α β : Type} {P : Nat → α → β → Prop} {a : α} {b : β} {rest : List (α × β)} :
    (∀ j k t, ((a, b) :: rest)[j]? = some (k, t) → P j k t) ↔
      P 0 a b ∧ ∀ j k t, rest[j]? = some (k, t) → P (j + 1) k t := by
  constructor
  · intro all
    exact ⟨all 0 a b rfl, fun j k t found => all (j + 1) k t found⟩
  · rintro ⟨first, rest⟩ (_ | j) k t found
    · cases found
      exact first
    · exact rest j k t found

theorem surplus_json : Format.json.surplus = false := rfl

theorem Server.decode_eq_some {v : Json.Value} {s : Server} :
    Server.decode .json (ofJson v) = some s ↔
      SectionIs Server.shape ({} : Server).fields s.fields v := by
  obtain ⟨address, time, most⟩ := s
  have parts : Server.decode .json (ofJson v) = some ⟨address, time, most⟩ ↔
      (ofJson v).isSection false 3 = true ∧
      (ofJson v).fieldD 0 "bind_address" text? ({} : Server).bindAddress = some address ∧
      (ofJson v).fieldD 1 "request_timeout_secs" natural? ({} : Server).requestTimeoutSecs = some time ∧
      (ofJson v).fieldD 2 "max_body_bytes" natural? ({} : Server).maxBodyBytes = some most := by
    simp [Server.decode, surplus_json, Option.bind_eq_some_iff, -Bool.exists_bool]
  rw [parts, isSection_ofJson, decodes_text.fieldD_eq_some, decodes_natural.fieldD_eq_some,
    decodes_natural.fieldD_eq_some]
  simp [SectionIs, Server.shape, forall_shape_cons, Server.fields, lookup_cons_ite]

theorem Coordination.decode_eq_some {v : Json.Value} {s : Coordination} :
    Coordination.decode .json (ofJson v) = some s ↔
      SectionIs Coordination.shape ({} : Coordination).fields s.fields v := by
  obtain ⟨enabled, endpoints, time⟩ := s
  have parts : Coordination.decode .json (ofJson v) = some ⟨enabled, endpoints, time⟩ ↔
      (ofJson v).isSection false 3 = true ∧
      (ofJson v).fieldD 0 "enabled" boolean? ({} : Coordination).enabled = some enabled ∧
      (ofJson v).fieldD 1 "endpoints" texts? ({} : Coordination).endpoints = some endpoints ∧
      (ofJson v).fieldD 2 "dial_timeout_secs" natural? ({} : Coordination).dialTimeoutSecs = some time := by
    simp [Coordination.decode, surplus_json, Option.bind_eq_some_iff, -Bool.exists_bool]
  rw [parts, isSection_ofJson, decodes_flag.fieldD_eq_some, decodes_texts.fieldD_eq_some,
    decodes_natural.fieldD_eq_some]
  simp [SectionIs, Coordination.shape, forall_shape_cons, Coordination.fields, lookup_cons_ite]

theorem Lifecycle.decode_eq_some {v : Json.Value} {s : Lifecycle} :
    Lifecycle.decode .json (ofJson v) = some s ↔
      SectionIs Lifecycle.shape ({} : Lifecycle).fields s.fields v := by
  obtain ⟨stop, start, signals⟩ := s
  have parts : Lifecycle.decode .json (ofJson v) = some ⟨stop, start, signals⟩ ↔
      (ofJson v).isSection false 3 = true ∧
      (ofJson v).fieldD 0 "shutdown_timeout_ms" natural? ({} : Lifecycle).shutdownTimeoutMs = some stop ∧
      (ofJson v).fieldD 1 "startup_timeout_ms" natural? ({} : Lifecycle).startupTimeoutMs = some start ∧
      (ofJson v).fieldD 2 "handle_signals" boolean? ({} : Lifecycle).handleSignals = some signals := by
    simp [Lifecycle.decode, surplus_json, Option.bind_eq_some_iff, -Bool.exists_bool]
  rw [parts, isSection_ofJson, decodes_natural.fieldD_eq_some, decodes_natural.fieldD_eq_some,
    decodes_flag.fieldD_eq_some]
  simp [SectionIs, Lifecycle.shape, forall_shape_cons, Lifecycle.fields, lookup_cons_ite]

theorem Observability.decode_eq_some {v : Json.Value} {s : Observability} :
    Observability.decode .json (ofJson v) = some s ↔
      SectionIs Observability.shape ({} : Observability).fields s.fields v := by
  obtain ⟨level, format, enabled, address⟩ := s
  have parts : Observability.decode .json (ofJson v) = some ⟨level, format, enabled, address⟩ ↔
      (ofJson v).isSection false 4 = true ∧
      (ofJson v).fieldD 0 "log_level" text? ({} : Observability).logLevel = some level ∧
      (ofJson v).fieldD 1 "log_format" (LogFormat.decode .json) ({} : Observability).logFormat = some format ∧
      (ofJson v).fieldD 2 "metrics_enabled" boolean? ({} : Observability).metricsEnabled = some enabled ∧
      (ofJson v).fieldD 3 "metrics_address" text? ({} : Observability).metricsAddress = some address := by
    simp [Observability.decode, surplus_json, Option.bind_eq_some_iff, -Bool.exists_bool]
  rw [parts, isSection_ofJson, decodes_text.fieldD_eq_some, decodes_format.fieldD_eq_some,
    decodes_flag.fieldD_eq_some, decodes_text.fieldD_eq_some]
  simp [SectionIs, Observability.shape, forall_shape_cons, Observability.fields, lookup_cons_ite]

/-! ## Whole documents -/

theorem fieldD_section_eq_some {α : Type} {decode : Document → Option α} {default a : α} {v : Json.Value}
    {i : Nat} {n : String} (empty : decode (ofJson (.obj [])) = some default) :
    (ofJson v).fieldD i n decode default = some a ↔
      decode (ofJson ((part? v i n).getD (.obj []))) = some a := by
  rw [fieldD, field?_ofJson]
  cases part? v i n with
  | none => rw [Option.getD_none, empty]; rfl
  | some s => rfl

/-- The sections of a configuration, each laid over its defaults. -/
theorem ofJson?_eq_some {v : Json.Value} {c : ServiceHost.Config} :
    ofJson? v = some c ↔ IsRecord layout.length v ∧ ∀ i n shape, layout[i]? = some (n, shape) →
      ∃ defaults fields, (sections {}).lookup n = some defaults ∧ c.sections.lookup n = some fields ∧
        SectionIs shape defaults fields ((part? v i n).getD (.obj [])) := by
  obtain ⟨server, coordination, lifecycle, observability⟩ := c
  have parts : ofJson? v = some ⟨server, coordination, lifecycle, observability⟩ ↔
      (ofJson v).isSection false 4 = true ∧
      (ofJson v).fieldD 0 "server" (Server.decode .json) {} = some server ∧
      (ofJson v).fieldD 1 "coordination" (Coordination.decode .json) {} = some coordination ∧
      (ofJson v).fieldD 2 "lifecycle" (Lifecycle.decode .json) {} = some lifecycle ∧
      (ofJson v).fieldD 3 "observability" (Observability.decode .json) {} = some observability := by
    simp [ofJson?, decode, surplus_json, Option.bind_eq_some_iff]
  have first : (ofJson v).fieldD 0 "server" (Server.decode .json) {} = some server ↔ _ :=
    fieldD_section_eq_some rfl
  have second : (ofJson v).fieldD 1 "coordination" (Coordination.decode .json) {} = some coordination ↔ _ :=
    fieldD_section_eq_some rfl
  have third : (ofJson v).fieldD 2 "lifecycle" (Lifecycle.decode .json) {} = some lifecycle ↔ _ :=
    fieldD_section_eq_some rfl
  have fourth : (ofJson v).fieldD 3 "observability" (Observability.decode .json) {} = some observability ↔ _ :=
    fieldD_section_eq_some rfl
  rw [parts, isSection_ofJson, first, second, third, fourth, Server.decode_eq_some,
    Coordination.decode_eq_some, Lifecycle.decode_eq_some, Observability.decode_eq_some]
  simp [layout, forall_shape_cons, sections, lookup_cons_ite]

theorem part?_getD (v : Json.Value) (i : Nat) (n : String) (j : Nat) (k : String) :
    part? ((part? v i n).getD (.obj [])) j k = given? v i n j k := by
  rw [given?]
  cases part? v i n <;> rfl

/-- Every field of the layout is one of every configuration. -/
theorem exists_fields {i : Nat} {n : String} {shape : Shape} (here : layout[i]? = some (n, shape))
    (c : ServiceHost.Config) : ∃ fields, c.sections.lookup n = some fields ∧
      ∀ (j : Nat) (k : String) (t : FieldType), shape[j]? = some (k, t) → ∃ x, fields.lookup k = some x := by
  have all : ∀ (i : Nat) (n : String) (shape : Shape), layout[i]? = some (n, shape) →
      ∃ fields, c.sections.lookup n = some fields ∧
        ∀ (j : Nat) (k : String) (t : FieldType), shape[j]? = some (k, t) → ∃ x, fields.lookup k = some x := by
    simp [layout, forall_shape_cons, sections, lookup_cons_ite, Server.shape, Server.fields, Coordination.shape,
      Coordination.fields, Lifecycle.shape, Lifecycle.fields, Observability.shape, Observability.fields]
  exact all i n shape here

theorem setting?_of_lookup {c : ServiceHost.Config} {n k : String} {fields : Fields}
    (listed : c.sections.lookup n = some fields) : c.setting? n k = fields.lookup k := by
  rw [setting?, listed]
  rfl

/-- A document is read if and only if it lays a configuration over the defaults, and then as that one. -/
theorem ofJson?_eq_some_iff {v : Json.Value} {c : ServiceHost.Config} : ofJson? v = some c ↔ Overlays v c := by
  rw [ofJson?_eq_some]
  constructor
  · rintro ⟨root, sections⟩
    refine ⟨root, fun here part => ?_, ?_, ?_⟩
    · obtain ⟨_, _, _, _, record, -⟩ := sections _ _ _ here
      rwa [part, Option.getD_some] at record
    · rintro i n j k t w ⟨shape, here, field⟩ given
      obtain ⟨_, fields, -, listed, -, each⟩ := sections _ _ _ here
      obtain ⟨_, x, -, set, is⟩ := each _ _ _ field
      rw [part?_getD, given] at is
      exact ⟨x, is, by rw [setting?_of_lookup listed, set]⟩
    · rintro i n j k t ⟨shape, here, field⟩ missing
      obtain ⟨defaults, fields, initially, listed, -, each⟩ := sections _ _ _ here
      obtain ⟨default, x, unset, set, is⟩ := each _ _ _ field
      rw [part?_getD, missing] at is
      rw [setting?_of_lookup listed, setting?_of_lookup initially, set, unset, is]
  · rintro ⟨root, inside, given, left⟩
    refine ⟨root, fun i n shape here => ?_⟩
    obtain ⟨defaults, initially, unset⟩ := exists_fields here {}
    obtain ⟨fields, listed, set⟩ := exists_fields here c
    refine ⟨defaults, fields, initially, listed, ?_, fun j k t field => ?_⟩
    · cases part : part? v i n with
      | none => trivial
      | some s => exact inside here part
    · obtain ⟨default, unset⟩ := unset j k t field
      obtain ⟨x, set⟩ := set j k t field
      refine ⟨default, x, unset, set, ?_⟩
      rw [part?_getD]
      cases found : given? v i n j k with
      | none =>
        have same := left ⟨shape, here, field⟩ found
        rw [setting?_of_lookup listed, setting?_of_lookup initially, set, unset] at same
        exact Option.some.inj same
      | some w =>
        obtain ⟨y, reads, same⟩ := given ⟨shape, here, field⟩ found
        rw [setting?_of_lookup listed, set, Option.some.injEq] at same
        exact same ▸ reads

end ServiceHost.Config
