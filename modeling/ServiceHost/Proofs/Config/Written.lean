import ServiceHost.Proofs.Config.Settings
import ServiceHost.Proofs.Toml.Lines
import ServiceHost.Proofs.Toml.Tables

/-! The TOML texts of a configuration. Sections and fields stand in any order, fields with their defaults may be
left out, and anything may be said of keys that are no fields. Every configuration has such texts. -/

namespace ServiceHost.Config

open Document

namespace Setting

def term : Setting → Toml.Term
  | text s => .scalar (.text s)
  | natural n => .scalar (.integer n)
  | flag b => .scalar (.boolean b)
  | texts ss => .array (ss.map fun s => .scalar (.text s))

def value : Setting → Toml.Value
  | text s => .scalar (.text s)
  | natural n => .scalar (.integer n)
  | flag b => .scalar (.boolean b)
  | texts ss => .array (ss.map fun s => .scalar (.text s))

/-- How a setting is written. -/
inductive Writes : Setting → List Char → Prop
  | text {s : String} {w : List Char} (writes : Toml.WritesText s w) : Writes (text s) w
  | natural {n : Nat} {w : List Char} (writes : Toml.WritesNatural n w) : Writes (natural n) w
  | yes : Writes (flag true) ['t', 'r', 'u', 'e']
  | no : Writes (flag false) ['f', 'a', 'l', 's', 'e']
  | texts {ss : List String} {w : List Char} (writes : Toml.WritesTexts ss w) : Writes (texts ss) w

/-- The numbers that a signed word of 64 bits holds. -/
def Fits : Setting → Prop
  | natural n => n ≤ 9223372036854775807
  | _ => True

theorem exists_writes (x : Setting) : ∃ w, x.Writes w := by
  cases x with
  | text s => exact (Toml.exists_writesText s).imp fun _ => .text
  | natural n => exact (Toml.exists_writesNatural n).imp fun _ => .natural
  | flag b => cases b <;> exact ⟨_, by constructor⟩
  | texts ss => exact (Toml.exists_writesTexts ss).imp fun _ => .texts

theorem value?_term (x : Setting) : x.term.value? = some x.value := by
  cases x with
  | texts ss =>
    have items : Toml.itemValues? (ss.map fun s => .scalar (.text s)) =
        some (ss.map fun s => .scalar (.text s)) := by
      induction ss with
      | nil => rfl
      | cons s ss ih => rw [List.map_cons, Toml.itemValues?, ih]; rfl
    rw [term, Toml.Term.value?, items]
    rfl
  | text => rfl
  | natural => rfl
  | flag => rfl

theorem ofToml_value (x : Setting) : ofToml x.value = x.document := by
  cases x with
  | texts ss =>
    rw [value, document, ofToml]
    congr 1
    induction ss with
    | nil => rfl
    | cons s ss ih => rw [List.map_cons, List.map_cons, ofTomlItems, ih]; rfl
  | text => rfl
  | natural => rfl
  | flag => rfl

theorem readsAsTerm {x : Setting} {w : List Char} (fits : x.Fits) (writes : x.Writes w) :
    Toml.ReadsAsTerm w x.term := by
  cases writes with
  | text writes => exact Toml.readsAsTerm_text writes
  | natural writes => exact Toml.readsAsTerm_word (Toml.isWord_natural writes fits)
  | yes => exact Toml.readsAsTerm_word Toml.isWord_true
  | no => exact Toml.readsAsTerm_word Toml.isWord_false
  | texts writes => exact Toml.readsAsTerm_texts writes

end Setting

/-! ## Lines -/

/-- What a line of a text of a configuration may be for. -/
inductive Line where
  /-- Opens a section. -/
  | table (n : String)
  /-- Sets a field of the section that is open. -/
  | field (n k : String) (x : Setting)
  /-- Is about something else. -/
  | other (t : Toml.Statement)

namespace Line

def statement : Line → Toml.Statement
  | table n => .header [n]
  | field _ k x => .entry [k] x.term
  | other t => t

/-- How a line is written. What is none of the configuration's business may be any statement. -/
inductive Writes : Line → List Char → Prop
  | table {n : String} {b w b' : List Char} (before : Toml.Blanks b) (key : Toml.WritesKey n w)
      (after : Toml.Blanks b') : Writes (table n) ('[' :: (b ++ (w ++ (b' ++ [']']))))
  | field {n k : String} {x : Setting} {w b b' v : List Char} (key : Toml.WritesKey k w)
      (before : Toml.Blanks b) (after : Toml.Blanks b') (value : x.Writes v) :
      Writes (field n k x) (w ++ (b ++ '=' :: (b' ++ v)))
  | other {t : Toml.Statement} {w : List Char} (reads : Toml.ReadsAs w t) : Writes (other t) w

/-- The number in the line, if it has one, can be read. -/
def Fits : Line → Prop
  | field _ _ x => x.Fits
  | _ => True

theorem readsAs {l : Line} {w : List Char} (fits : l.Fits) (writes : l.Writes w) :
    Toml.ReadsAs w l.statement := by
  cases writes with
  | table before key after => exact Toml.readsAs_header before key after
  | field key before after value => exact Toml.readsAs_entry key before after (Setting.readsAsTerm fits value)
  | other reads => exact reads

/-- Whether the line sets a field. -/
def isField : Line → Bool
  | field _ _ _ => true
  | _ => false

def table? : Line → Option String
  | table n => some n
  | _ => none

/-- Which field the line sets, and to what. -/
def field? : Line → Option ((String × String) × Setting)
  | field n k x => some ((n, k), x)
  | _ => none

end Line

/-! ## Texts of a configuration -/

/-- The names of the configuration's sections. -/
def hasSection (n : String) : Bool := (sections {} |>.lookup n).isSome

/-- The keys of the fields in the sections. -/
def hasField (n k : String) : Bool := (setting? {} n k).isSome

/-- The lines can follow one another while the table with this path is open: each field is set where it belongs
and to what it is, and the rest is about other things. -/
inductive InPlace (c : ServiceHost.Config) : Toml.Path → List Line → Prop
  | done {open' : Toml.Path} : InPlace c open' []
  | table {open' : Toml.Path} {n : String} {ls : List Line} (known : hasSection n = true)
      (more : InPlace c [n] ls) : InPlace c open' (.table n :: ls)
  | field {n k : String} {x : Setting} {ls : List Line} (set : c.setting? n k = some x)
      (more : InPlace c [n] ls) : InPlace c [n] (.field n k x :: ls)
  | other {open' : Toml.Path} {t : Toml.Statement} {ls : List Line}
      (unknown : Toml.Members.Unknown hasField (t.place open')) (more : InPlace c (t.next open') ls) :
      InPlace c open' (.other t :: ls)

/-- Lines that make up a text of the configuration. -/
structure Presents (ls : List Line) (c : ServiceHost.Config) : Prop where
  inPlace : InPlace c [] ls
  /-- No table is opened twice. -/
  tables : (ls.filterMap Line.table?).Nodup
  /-- No field is set twice. -/
  fields : ((ls.filterMap Line.field?).map (·.1)).Nodup
  /-- What is not set has its default. -/
  missing : ∀ n k x, c.setting? n k = some x → (n, k) ∉ (ls.filterMap Line.field?).map (·.1) →
    setting? {} n k = some x
  /-- Anything else makes sense by itself, fields or no fields. -/
  others : (∃ t, .other t ∈ ls) →
    ∃ d, ((ls.filter (!·.isField)).map Line.statement).foldlM Toml.Draft.add {} = some d

/-- The text is a TOML text of the configuration. -/
def WrittenAs (c : ServiceHost.Config) (s : String) : Prop :=
  ∃ ls, Presents ls c ∧ Toml.Lines Line.Writes ls s.toList

/-! ## A text for each configuration -/

/-- All sections with all their fields. -/
def allLines (c : ServiceHost.Config) : List Line :=
  c.sections.flatMap fun s => .table s.1 :: s.2.map fun x => .field s.1 x.1 x.2

theorem inPlace_fields {c : ServiceHost.Config} {n : String} {fields : Fields} {ls : List Line}
    (set : ∀ x ∈ fields, c.setting? n x.1 = some x.2) (more : InPlace c [n] ls) :
    InPlace c [n] (fields.map (fun x => .field n x.1 x.2) ++ ls) := by
  induction fields with
  | nil => exact more
  | cons x fields ih =>
    exact .field (set x List.mem_cons_self) (ih fun y mem => set y (List.mem_cons_of_mem _ mem))

theorem inPlace_sections {c : ServiceHost.Config} {ss : List (String × Fields)}
    (known : ∀ s ∈ ss, hasSection s.1 = true ∧ ∀ x ∈ s.2, c.setting? s.1 x.1 = some x.2) (p : Toml.Path) :
    InPlace c p (ss.flatMap fun s => .table s.1 :: s.2.map fun x => .field s.1 x.1 x.2) := by
  induction ss generalizing p with
  | nil => exact .done
  | cons s ss ih =>
    obtain ⟨named, set⟩ := known s List.mem_cons_self
    exact .table named (inPlace_fields set (ih (fun s mem => known s (List.mem_cons_of_mem _ mem)) [s.1]))

theorem known_sections (c : ServiceHost.Config) :
    ∀ s ∈ c.sections, hasSection s.1 = true ∧ ∀ x ∈ s.2, c.setting? s.1 x.1 = some x.2 := by
  simp only [sections, Server.fields, Coordination.fields, Lifecycle.fields, Observability.fields,
    List.forall_mem_cons, List.not_mem_nil, false_imp_iff, implies_true, and_true]
  exact ⟨⟨rfl, rfl, rfl, rfl⟩, ⟨rfl, rfl, rfl, rfl⟩, ⟨rfl, rfl, rfl, rfl⟩, rfl, rfl, rfl, rfl, rfl⟩

theorem presents_allLines (c : ServiceHost.Config) : Presents c.allLines c where
  inPlace := inPlace_sections (known_sections c) []
  tables := by
    change ["server", "coordination", "lifecycle", "observability"].Nodup
    decide
  fields := by
    change [("server", "bind_address"), ("server", "request_timeout_secs"), ("server", "max_body_bytes"),
      ("coordination", "enabled"), ("coordination", "endpoints"), ("coordination", "dial_timeout_secs"),
      ("lifecycle", "shutdown_timeout_ms"), ("lifecycle", "startup_timeout_ms"),
      ("lifecycle", "handle_signals"), ("observability", "log_level"), ("observability", "log_format"),
      ("observability", "metrics_enabled"), ("observability", "metrics_address")].Nodup
    decide
  missing n k x set absent := by
    obtain ⟨fields, listed, mem⟩ := mem_of_setting? set
    refine absurd (List.mem_map.2 ⟨((n, k), x), List.mem_filterMap.2 ⟨.field n k x, ?_, rfl⟩, rfl⟩) absent
    refine List.mem_flatMap.2 ⟨(n, fields), listed, List.mem_cons_of_mem _ ?_⟩
    exact List.mem_map.2 ⟨(k, x), mem, rfl⟩
  others added := by
    obtain ⟨t, mem⟩ := added
    simp [allLines] at mem

/-- Every configuration can be written. -/
theorem exists_writtenAs (c : ServiceHost.Config) : ∃ s, WrittenAs c s := by
  have key (k : String) : ∃ w, Toml.WritesKey k w := (Toml.exists_writesText k).imp fun _ => .quoted
  have none : Toml.Blanks [] := nofun
  have line (l : Line) (mem : l ∈ c.allLines) : ∃ w, l.Writes w := by
    cases l with
    | table n =>
      obtain ⟨_, key⟩ := key n
      exact ⟨_, .table none key none⟩
    | field n k x =>
      obtain ⟨_, key⟩ := key k
      obtain ⟨_, value⟩ := x.exists_writes
      exact ⟨_, .field key none none value⟩
    | other t => simp [allLines] at mem
  obtain ⟨s, lines⟩ := Toml.exists_lines line
  exact ⟨String.ofList s, c.allLines, presents_allLines c, by rwa [String.toList_ofList]⟩

end ServiceHost.Config
