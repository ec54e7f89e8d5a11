import ServiceHost.Config.Load
import ServiceHost.Proofs.Json.Document
import ServiceHost.Proofs.Lookup

/-! A configuration as a table of settings. A document that gives some of them, and lacks only such as have
their defaults, is decoded to the configuration, whatever its notation; the JSON form is such a document. -/

namespace ServiceHost.Config

open Document

/-! ## Settings -/

/-- The value of a field, whatever the notation. -/
inductive Setting where
  | text (s : String)
  | natural (n : Nat)
  | flag (b : Bool)
  | texts (ss : List String)
deriving DecidableEq

namespace Setting

def document : Setting → Document
  | text s => .text s
  | natural n => .integer n
  | flag b => .boolean b
  | texts ss => .array (ss.map .text)

def json : Setting → Json.Value
  | text s => .str s
  | natural n => .ofNat n
  | flag b => .bool b
  | texts ss => .arr (ss.map .str)

end Setting

def LogFormat.name : LogFormat → String
  | pretty => "pretty"
  | json => "json"

/-- The fields of a section with their values. -/
abbrev Fields := List (String × Setting)

def Server.fields (s : Server) : Fields :=
  [("bind_address", .text s.bindAddress),
    ("request_timeout_secs", .natural s.requestTimeoutSecs),
    ("max_body_bytes", .natural s.maxBodyBytes)]

def Coordination.fields (s : Coordination) : Fields :=
  [("enabled", .flag s.enabled),
    ("endpoints", .texts s.endpoints),
    ("dial_timeout_secs", .natural s.dialTimeoutSecs)]

def Lifecycle.fields (s : Lifecycle) : Fields :=
  [("shutdown_timeout_ms", .natural s.shutdownTimeoutMs),
    ("startup_timeout_ms", .natural s.startupTimeoutMs),
    ("handle_signals", .flag s.handleSignals)]

def Observability.fields (s : Observability) : Fields :=
  [("log_level", .text s.logLevel),
    ("log_format", .text s.logFormat.name),
    ("metrics_enabled", .flag s.metricsEnabled),
    ("metrics_address", .text s.metricsAddress)]

def sections (c : ServiceHost.Config) : List (String × Fields) :=
  [("server", c.server.fields),
    ("coordination", c.coordination.fields),
    ("lifecycle", c.lifecycle.fields),
    ("observability", c.observability.fields)]

/-- The value of a field of a section, if there is such a field. -/
def setting? (c : ServiceHost.Config) (n k : String) : Option Setting := do (← c.sections.lookup n).lookup k

theorem mem_of_setting? {c : ServiceHost.Config} {n k : String} {x : Setting} (set : c.setting? n k = some x) :
    ∃ fields, (n, fields) ∈ c.sections ∧ (k, x) ∈ fields := by
  simp only [setting?, Option.bind_eq_bind, Option.bind_eq_some_iff] at set
  obtain ⟨fields, listed, set⟩ := set
  exact ⟨fields, mem_of_lookup listed, mem_of_lookup set⟩

/-- The numbers of a configuration. -/
def naturals (c : ServiceHost.Config) : List Nat :=
  [c.server.requestTimeoutSecs, c.server.maxBodyBytes, c.coordination.dialTimeoutSecs,
    c.lifecycle.shutdownTimeoutMs, c.lifecycle.startupTimeoutMs]

/-! ## Decoding -/

/-- A table whose members give these fields; only fields with their defaults may be missing. -/
def Fills (fields defaults : Fields) (d : Document) : Prop :=
  ∃ members, d = .table members ∧ ∀ k x, fields.lookup k = some x →
    d.field? 0 k = some x.document ∨ d.field? 0 k = none ∧ defaults.lookup k = some x

/-- A field that the table gives, or whose default it leaves, is decoded to its value. -/
theorem fieldD_of_given {α : Type} {decode : Document → Option α} (encode : α → Setting) {a default : α}
    {d : Document} {position : Nat} {k : String} {defaults : Fields}
    (given : d.field? position k = some (encode a).document ∨
      d.field? position k = none ∧ defaults.lookup k = some (encode a))
    (back : decode (encode a).document = some a)
    (same : defaults.lookup k = some (encode default) ∧ (encode default = encode a → default = a)) :
    d.fieldD position k decode default = some a := by
  rcases given with given | ⟨missing, left⟩
  · rw [fieldD, given]
    exact back
  · rw [same.1, Option.some.injEq] at left
    rw [fieldD, missing, same.2 left]

theorem natural?_document {n : Nat} (fits : n ≤ maxWord) : natural? (Setting.natural n).document = some n :=
  if_pos fits

theorem texts?_document (ss : List String) : texts? (Setting.texts ss).document = some ss := by
  induction ss with
  | nil => rfl
  | cons s ss ih =>
    simp only [texts?, Setting.document, List.map_cons, List.mapM_cons] at ih ⊢
    rw [ih]
    rfl

theorem decode_logFormat (f : Format) (l : LogFormat) :
    LogFormat.decode f (Setting.text l.name).document = some l := by
  cases l <;> rfl

theorem LogFormat.name_injective {a b : LogFormat} (same : Setting.text a.name = Setting.text b.name) :
    a = b := by
  cases a <;> cases b <;> simp [name] at same <;> rfl

/-! ## Sections -/

section

variable (f : Format) {d : Document}

theorem Server.decode_of_fills {s : Server} (fills : Fills s.fields ({} : Server).fields d)
    (time : s.requestTimeoutSecs ≤ maxWord) (most : s.maxBodyBytes ≤ maxWord) :
    Server.decode f d = some s := by
  obtain ⟨members, rfl, given⟩ := fills
  have bind : (Document.table members).fieldD 0 "bind_address" text? ({} : Server).bindAddress =
      some s.bindAddress :=
    fieldD_of_given .text (given _ _ rfl) rfl ⟨rfl, Setting.text.inj⟩
  have time : (Document.table members).fieldD 1 "request_timeout_secs" natural?
      ({} : Server).requestTimeoutSecs = some s.requestTimeoutSecs :=
    fieldD_of_given .natural (given _ _ rfl) (natural?_document time) ⟨rfl, Setting.natural.inj⟩
  have most : (Document.table members).fieldD 2 "max_body_bytes" natural? ({} : Server).maxBodyBytes =
      some s.maxBodyBytes :=
    fieldD_of_given .natural (given _ _ rfl) (natural?_document most) ⟨rfl, Setting.natural.inj⟩
  rw [Server.decode, bind, time, most]
  rfl

theorem Coordination.decode_of_fills {s : Coordination} (fills : Fills s.fields ({} : Coordination).fields d)
    (time : s.dialTimeoutSecs ≤ maxWord) : Coordination.decode f d = some s := by
  obtain ⟨members, rfl, given⟩ := fills
  have enabled : (Document.table members).fieldD 0 "enabled" boolean? ({} : Coordination).enabled =
      some s.enabled :=
    fieldD_of_given .flag (given _ _ rfl) rfl ⟨rfl, Setting.flag.inj⟩
  have endpoints : (Document.table members).fieldD 1 "endpoints" texts? ({} : Coordination).endpoints =
      some s.endpoints :=
    fieldD_of_given .texts (given _ _ rfl) (texts?_document _) ⟨rfl, Setting.texts.inj⟩
  have time : (Document.table members).fieldD 2 "dial_timeout_secs" natural?
      ({} : Coordination).dialTimeoutSecs = some s.dialTimeoutSecs :=
    fieldD_of_given .natural (given _ _ rfl) (natural?_document time) ⟨rfl, Setting.natural.inj⟩
  rw [Coordination.decode, enabled, endpoints, time]
  rfl

theorem Lifecycle.decode_of_fills {s : Lifecycle} (fills : Fills s.fields ({} : Lifecycle).fields d)
    (stop : s.shutdownTimeoutMs ≤ maxWord) (start : s.startupTimeoutMs ≤ maxWord) :
    Lifecycle.decode f d = some s := by
  obtain ⟨members, rfl, given⟩ := fills
  have stop : (Document.table members).fieldD 0 "shutdown_timeout_ms" natural?
      ({} : Lifecycle).shutdownTimeoutMs = some s.shutdownTimeoutMs :=
    fieldD_of_given .natural (given _ _ rfl) (natural?_document stop) ⟨rfl, Setting.natural.inj⟩
  have start : (Document.table members).fieldD 1 "startup_timeout_ms" natural?
      ({} : Lifecycle).startupTimeoutMs = some s.startupTimeoutMs :=
    fieldD_of_given .natural (given _ _ rfl) (natural?_document start) ⟨rfl, Setting.natural.inj⟩
  have signals : (Document.table members).fieldD 2 "handle_signals" boolean? ({} : Lifecycle).handleSignals =
      some s.handleSignals :=
    fieldD_of_given .flag (given _ _ rfl) rfl ⟨rfl, Setting.flag.inj⟩
  rw [Lifecycle.decode, stop, start, signals]
  rfl

theorem Observability.decode_of_fills {s : Observability}
    (fills : Fills s.fields ({} : Observability).fields d) : Observability.decode f d = some s := by
  obtain ⟨members, rfl, given⟩ := fills
  have level : (Document.table members).fieldD 0 "log_level" text? ({} : Observability).logLevel =
      some s.logLevel :=
    fieldD_of_given .text (given _ _ rfl) rfl ⟨rfl, Setting.text.inj⟩
  have format : (Document.table members).fieldD 1 "log_format" (LogFormat.decode f)
      ({} : Observability).logFormat = some s.logFormat :=
    fieldD_of_given (fun l => .text l.name) (given _ _ rfl) (decode_logFormat f _)
      ⟨rfl, LogFormat.name_injective⟩
  have enabled : (Document.table members).fieldD 2 "metrics_enabled" boolean?
      ({} : Observability).metricsEnabled = some s.metricsEnabled :=
    fieldD_of_given .flag (given _ _ rfl) rfl ⟨rfl, Setting.flag.inj⟩
  have address : (Document.table members).fieldD 3 "metrics_address" text?
      ({} : Observability).metricsAddress = some s.metricsAddress :=
    fieldD_of_given .text (given _ _ rfl) rfl ⟨rfl, Setting.text.inj⟩
  rw [Observability.decode, level, format, enabled, address]
  rfl

end

/-! ## Whole configurations -/

/-- A section of a document; one that is not there is an empty table. -/
def section? (d : Document) (n : String) : Document := (d.field? 0 n).getD (.table [])

/-- A document that gives a configuration: all of it but for what has its default. -/
structure Gives (d : Document) (c : ServiceHost.Config) : Prop where
  table : ∃ members, d = .table members
  inside : ∀ n, (c.sections.lookup n).isSome → ∃ members, section? d n = .table members
  given : ∀ n k x, c.setting? n k = some x → (section? d n).field? 0 k = some x.document ∨
    (section? d n).field? 0 k = none ∧ setting? {} n k = some x

theorem fieldD_section {α : Type} {decode : Document → Option α} {default a : α} {d : Document} {position : Nat}
    {n : String} (empty : decode (.table []) = some default) (found : d.field? position n = d.field? 0 n)
    (read : decode (section? d n) = some a) : d.fieldD position n decode default = some a := by
  rw [section?] at read
  rw [fieldD, found]
  cases given : d.field? 0 n with
  | none =>
    rw [given, Option.getD_none, empty] at read
    exact read
  | some v =>
    rw [given, Option.getD_some] at read
    exact read

theorem decode_of_gives (f : Format) {d : Document} {c : ServiceHost.Config} (gives : Gives d c)
    (fits : ∀ n ∈ c.naturals, n ≤ maxWord) : decode f d = some c := by
  obtain ⟨⟨members, rfl⟩, inside, given⟩ := gives
  have server : (Document.table members).fieldD 0 "server" (Server.decode f) {} = some c.server :=
    fieldD_section rfl rfl (Server.decode_of_fills f
      ((inside "server" rfl).imp fun _ same => ⟨same, given "server"⟩)
      (fits _ (by simp [naturals])) (fits _ (by simp [naturals])))
  have coordination : (Document.table members).fieldD 1 "coordination" (Coordination.decode f) {} =
      some c.coordination :=
    fieldD_section rfl rfl (Coordination.decode_of_fills f
      ((inside "coordination" rfl).imp fun _ same => ⟨same, given "coordination"⟩)
      (fits _ (by simp [naturals])))
  have lifecycle : (Document.table members).fieldD 2 "lifecycle" (Lifecycle.decode f) {} = some c.lifecycle :=
    fieldD_section rfl rfl (Lifecycle.decode_of_fills f
      ((inside "lifecycle" rfl).imp fun _ same => ⟨same, given "lifecycle"⟩)
      (fits _ (by simp [naturals])) (fits _ (by simp [naturals])))
  have observability : (Document.table members).fieldD 3 "observability" (Observability.decode f) {} =
      some c.observability :=
    fieldD_section rfl rfl (Observability.decode_of_fills f
      ((inside "observability" rfl).imp fun _ same => ⟨same, given "observability"⟩))
  rw [decode, server, coordination, lifecycle, observability]
  rfl

/-! ## The JSON form -/

/-- An object with a member for each field. -/
def objectOf (fields : Fields) : Json.Value := .obj (fields.map fun x => (x.1, x.2.json))

/-- The JSON form has a member for each section and, in it, one for each field. -/
theorem toJson_eq (c : ServiceHost.Config) : c.toJson = .obj (c.sections.map fun s => (s.1, objectOf s.2)) := by
  obtain ⟨_, _, _, ⟨_, format, _, _⟩⟩ := c
  cases format <;> rfl

theorem ofJson_json (x : Setting) : ofJson x.json = x.document := by
  cases x with
  | texts ss =>
    rw [Setting.json, Setting.document, ofJson]
    congr 1
    induction ss with
    | nil => rfl
    | cons s ss ih => rw [List.map_cons, List.map_cons, ofItems, ih]; rfl
  | text => rfl
  | natural => rfl
  | flag => rfl

theorem ofMembers_eq (ms : List (String × Json.Value)) : ofMembers ms = ms.map fun m => (m.1, ofJson m.2) := by
  induction ms with
  | nil => rfl
  | cons m rest ih => rw [ofMembers, List.map_cons, ih]

theorem field?_ofMembers (ms : List (String × Json.Value)) (k : String) :
    (Document.table (ofMembers ms)).field? 0 k = (ms.lookup k).map ofJson := by
  rw [field?, find?_eq_lookup, ofMembers_eq, lookup_map_snd]

/-- The members of the JSON form, in any order. -/
def Resembles (ms : List (String × Json.Value)) (c : ServiceHost.Config) : Prop :=
  ∀ n fields, c.sections.lookup n = some fields → ∃ inner, ms.lookup n = some (.obj inner) ∧
    ∀ k, inner.lookup k = (fields.lookup k).map Setting.json

theorem gives_of_resembles {c : ServiceHost.Config} {ms : List (String × Json.Value)}
    (resembles : Resembles ms c) : Gives (ofJson (.obj ms)) c := by
  have found {n : String} {fields : Fields} (listed : c.sections.lookup n = some fields) :
      ∃ inner, section? (ofJson (.obj ms)) n = .table (ofMembers inner) ∧
        ∀ k, inner.lookup k = (fields.lookup k).map Setting.json := by
    obtain ⟨inner, found, same⟩ := resembles n fields listed
    exact ⟨inner, by rw [section?, ofJson, field?_ofMembers, found]; rfl, same⟩
  refine ⟨⟨ofMembers ms, rfl⟩, fun n listed => ?_, fun n k x set => .inl ?_⟩
  · obtain ⟨fields, listed⟩ := Option.isSome_iff_exists.1 listed
    obtain ⟨inner, same, -⟩ := found listed
    exact ⟨_, same⟩
  · simp only [setting?, Option.bind_eq_bind, Option.bind_eq_some_iff] at set
    obtain ⟨fields, listed, set⟩ := set
    obtain ⟨inner, same, each⟩ := found listed
    rw [same, field?_ofMembers, each, set, Option.map_some, Option.map_some, ofJson_json]

theorem gives_toJson (c : ServiceHost.Config) : Gives (ofJson c.toJson) c := by
  rw [toJson_eq]
  refine gives_of_resembles fun n fields listed => ⟨_, ?_, fun k => lookup_map_snd Setting.json fields k⟩
  rw [lookup_map_snd objectOf, listed]
  rfl

theorem nodup_sections (c : ServiceHost.Config) :
    (c.sections.map (·.1)).Nodup ∧ ∀ s ∈ c.sections, (s.2.map (·.1)).Nodup := by
  constructor
  · simp [sections]
  · simp [sections, Server.fields, Coordination.fields, Lifecycle.fields, Observability.fields]

theorem canonical_json (x : Setting) : x.json.canonical = x.json := by
  refine Json.canonical_of_sorted _ ?_
  cases x with
  | texts ss =>
    induction ss with
    | nil => trivial
    | cons s ss ih => exact ⟨trivial, ih⟩
  | text => trivial
  | natural => trivial
  | flag => trivial

theorem gives_canonical (c : ServiceHost.Config) : Gives (ofJson c.toJson.canonical) c := by
  rw [toJson_eq, Json.Value.canonical]
  refine gives_of_resembles fun n fields listed => ?_
  have once := (nodup_sections c).2 _ (mem_of_lookup listed)
  refine ⟨Json.Value.canonicalMembers (fields.map fun x => (x.1, x.2.json)), ?_, fun k => ?_⟩
  · rw [Json.lookup_canonicalMembers (by rw [List.map_map]; exact (nodup_sections c).1),
      lookup_map_snd objectOf, listed]
    rfl
  · rw [Json.lookup_canonicalMembers (by rw [List.map_map]; exact once), lookup_map_snd Setting.json,
      Option.map_map]
    exact congrArg (fun g => (fields.lookup k).map g) (funext canonical_json)

/-! ## Reading the JSON form -/

theorem integral_texts (ss : List String) : Json.Value.ItemsIntegral (ss.map .str) := by
  induction ss with
  | nil => trivial
  | cons s ss ih => exact ⟨trivial, ih⟩

theorem depth_texts (ss : List String) : Json.Value.depthItems (ss.map .str) = 0 := by
  induction ss with
  | nil => rfl
  | cons s ss ih => rw [List.map_cons, Json.Value.depthItems, ih]; rfl

theorem integral_toJson {c : ServiceHost.Config} (fits : ∀ n ∈ c.naturals, n ≤ maxWord) : c.toJson.Integral := by
  have number {n : Nat} (mem : n ∈ c.naturals) : (Json.Value.ofNat n).Integral := by
    have := fits n mem
    simp only [maxWord] at this
    simp only [Json.Value.ofNat, Json.Value.Integral, Json.maxWord]
    omega
  simp only [naturals, List.mem_cons, List.not_mem_nil, or_false] at number
  simp only [toJson, Json.Value.Integral, Json.Value.MembersIntegral, true_and, and_true]
  exact ⟨⟨number (by simp), number (by simp)⟩, ⟨integral_texts _, number (by simp)⟩, number (by simp),
    number (by simp)⟩

theorem depth_toJson (c : ServiceHost.Config) : c.toJson.depth ≤ 3 := by
  simp [toJson, Json.Value.depth, Json.Value.depthMembers, depth_texts, Json.Value.ofNat]

theorem ofJson?_toJson {c : ServiceHost.Config} (fits : ∀ n ∈ c.naturals, n ≤ maxWord) :
    ofJson? c.toJson = some c :=
  decode_of_gives .json (gives_toJson c) fits

theorem ofJson?_compact {c : ServiceHost.Config} (fits : ∀ n ∈ c.naturals, n ≤ maxWord) :
    (Json.Value.ofString? c.toJson.compact).bind ofJson? = some c := by
  rw [Json.ofString?_canonical (integral_toJson fits) ((depth_toJson c).trans (by decide)), Option.bind_some]
  exact decode_of_gives .json (gives_canonical c) fits

end ServiceHost.Config
