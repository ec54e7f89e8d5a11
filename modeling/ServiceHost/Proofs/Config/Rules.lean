import Mathlib.Data.List.Sort
import ServiceHost.CommandLine
import ServiceHost.Proofs.Config.Endpoint
import ServiceHost.Proofs.Config.Settings
import ServiceHost.Proofs.Text.Digit

/-! The checks on a configuration as rules about its fields. What is reported are the broken rules, each once and
in the order of the schema, and a field has a part in no report but its own. -/

namespace ServiceHost.Config

/-! ## Rules -/

def IsAddress (s : String) : Prop := ∃ a, Net.SocketAddress.ofString? s = some a

instance : DecidablePred IsAddress := fun _ => decidable_of_iff _ Option.isSome_iff_exists

/-- What a rule demands, with the value that it looks at. -/
inductive Demand where
  | address (s : String)
  | positive (n : Nat)
  /-- A list with at least one element, by its length. -/
  | nonempty (length : Nat)
  /-- One element of a list, if it is there. -/
  | endpoint (e : Option String)

namespace Demand

def Holds : Demand → Prop
  | address s => IsAddress s
  | positive n => 0 < n
  | nonempty length => 0 < length
  | endpoint e => ∀ s, e = some s → IsHostPort s

instance : DecidablePred Holds
  | address s => inferInstanceAs (Decidable (IsAddress s))
  | positive n => inferInstanceAs (Decidable (0 < n))
  | nonempty length => inferInstanceAs (Decidable (0 < length))
  | endpoint none => .isTrue fun _ none => by cases none
  | endpoint (some s) => decidable_of_iff (IsHostPort s) (by simp [Holds])

/-- What is reported when a demand is not met. -/
def message : Demand → String
  | address s => "invalid address `" ++ s ++ "`: invalid socket address syntax"
  | positive _ => "must be greater than 0"
  | nonempty _ => "at least one endpoint is required when coordination is enabled"
  | endpoint e => "expected host:port, got `" ++ e.getD "" ++ "`"

end Demand

inductive Rule where
  | bindAddress | requestTimeout | bodyLimit
  | someEndpoint
  /-- On one endpoint, by its index. -/
  | endpoint (i : Nat)
  | dialTimeout | shutdownTimeout | startupTimeout | metricsAddress
deriving DecidableEq

/-- A field as reports name it. -/
def path (n k : String) : String := n ++ "." ++ k

/-- The sections with their fields, in order. -/
def schema : List (String × String) := (sections {}).flatMap fun s => s.2.map fun x => (s.1, x.1)

namespace Rule

/-- The section and the field that a rule is about. -/
def key : Rule → String × String
  | bindAddress => ("server", "bind_address")
  | requestTimeout => ("server", "request_timeout_secs")
  | bodyLimit => ("server", "max_body_bytes")
  | someEndpoint => ("coordination", "endpoints")
  | endpoint _ => ("coordination", "endpoints")
  | dialTimeout => ("coordination", "dial_timeout_secs")
  | shutdownTimeout => ("lifecycle", "shutdown_timeout_ms")
  | startupTimeout => ("lifecycle", "startup_timeout_ms")
  | metricsAddress => ("observability", "metrics_address")

/-- The rule on a list as a whole comes before those on its elements. -/
def index : Rule → Nat
  | endpoint i => i + 1
  | _ => 0

def place (r : Rule) : Nat := schema.idxOf r.key

/-- The order of the schema, and under one field that of the indices. -/
def Before (a b : Rule) : Prop := a.place < b.place ∨ a.place = b.place ∧ a.index < b.index

def field : Rule → String
  | endpoint i => path "coordination" "endpoints" ++ "[" ++ toString i ++ "]"
  | r => path r.key.1 r.key.2

variable (c : ServiceHost.Config)

/-- A client or an exporter that is not enabled is under no rules. -/
def Applies : Rule → Prop
  | someEndpoint | endpoint _ | dialTimeout => c.coordination.enabled = true
  | metricsAddress => c.observability.metricsEnabled = true
  | _ => True

def demand : Rule → Demand
  | bindAddress => .address c.server.bindAddress
  | requestTimeout => .positive c.server.requestTimeoutSecs
  | bodyLimit => .positive c.server.maxBodyBytes
  | someEndpoint => .nonempty c.coordination.endpoints.length
  | endpoint i => .endpoint c.coordination.endpoints[i]?
  | dialTimeout => .positive c.coordination.dialTimeoutSecs
  | shutdownTimeout => .positive c.lifecycle.shutdownTimeoutMs
  | startupTimeout => .positive c.lifecycle.startupTimeoutMs
  | metricsAddress => .address c.observability.metricsAddress

def Broken (r : Rule) : Prop := r.Applies c ∧ ¬ (r.demand c).Holds

def problem (r : Rule) : Problem := ⟨r.field, (r.demand c).message⟩

instance : DecidablePred (Applies c)
  | someEndpoint | endpoint _ | dialTimeout => inferInstanceAs (Decidable (c.coordination.enabled = true))
  | metricsAddress => inferInstanceAs (Decidable (c.observability.metricsEnabled = true))
  | bindAddress | requestTimeout | bodyLimit | shutdownTimeout | startupTimeout => .isTrue trivial

instance : DecidablePred (Broken c) := fun r => inferInstanceAs (Decidable (r.Applies c ∧ ¬ (r.demand c).Holds))

instance : Std.Irrefl Before where
  irrefl a before := by
    unfold Before at before
    omega

instance : Std.Antisymm Before where
  antisymm a b ab ba := by
    unfold Before at ab ba
    omega

end Rule

/-! ## The report -/

/-- All rules on a configuration, in order. -/
def rules (c : ServiceHost.Config) : List Rule :=
  [.bindAddress, .requestTimeout, .bodyLimit, .someEndpoint] ++
    (List.range c.coordination.endpoints.length).map .endpoint ++
    [.dialTimeout, .shutdownTimeout, .startupTimeout, .metricsAddress]

def broken (c : ServiceHost.Config) : List Rule := c.rules.filter (·.Broken c)

theorem Rule.place_eq (r : Rule) : r.place = match r with
    | bindAddress => 0
    | requestTimeout => 1
    | bodyLimit => 2
    | someEndpoint | endpoint _ => 4
    | dialTimeout => 5
    | shutdownTimeout => 6
    | startupTimeout => 7
    | metricsAddress => 12 := by
  cases r <;> rfl

theorem pairwise_rules (c : ServiceHost.Config) : c.rules.Pairwise Rule.Before := by
  have inside : ((List.range c.coordination.endpoints.length).map Rule.endpoint).Pairwise Rule.Before := by
    rw [List.pairwise_map]
    refine List.pairwise_lt_range.imp fun {i j} less => .inr ⟨rfl, ?_⟩
    simpa [Rule.index] using less
  simp [rules, List.pairwise_append, inside, or_imp, forall_and, Rule.Before, Rule.place_eq, Rule.index]

theorem mem_broken {c : ServiceHost.Config} {r : Rule} : r ∈ c.broken ↔ r.Broken c := by
  rw [broken, List.mem_filter, decide_eq_true_iff, and_iff_right_iff_imp]
  rintro ⟨-, unmet⟩
  cases r with
  | endpoint i =>
    have there : i < c.coordination.endpoints.length := by
      by_contra beyond
      refine unmet fun s found => ?_
      rw [List.getElem?_eq_none (by omega)] at found
      cases found
    simp [rules, there]
  | _ => simp [rules]

theorem pairwise_broken (c : ServiceHost.Config) : c.broken.Pairwise Rule.Before := c.pairwise_rules.filter _

/-- What one rule adds to the report. -/
def Rule.report (c : ServiceHost.Config) (r : Rule) : List Problem := if r.Broken c then [r.problem c] else []

theorem map_broken (c : ServiceHost.Config) : c.broken.map (·.problem c) = c.rules.flatMap (·.report c) := by
  rw [broken]
  induction c.rules with
  | nil => rfl
  | cons r rs ih =>
    rw [List.flatMap_cons, ← ih, List.filter_cons, Rule.report]
    by_cases unmet : r.Broken c <;> simp [unmet]

theorem checkAddress_eq (field s : String) : checkAddress field s =
    if (Demand.address s).Holds then [] else [⟨field, (Demand.address s).message⟩] := by
  unfold checkAddress
  cases read : Net.SocketAddress.ofString? s with
  | some a => rw [if_pos ⟨a, read⟩]
  | none =>
    have fails : ¬ (Demand.address s).Holds := by
      rintro ⟨a, reads⟩
      cases read.symm.trans reads
    rw [if_neg fails]
    rfl

theorem checkPositive_eq (field : String) (n : Nat) : checkPositive field n =
    if (Demand.positive n).Holds then [] else [⟨field, (Demand.positive n).message⟩] := by
  rcases Nat.eq_zero_or_pos n with rfl | some
  · rfl
  · rw [checkPositive, if_neg (by omega), if_pos (show (Demand.positive n).Holds from some)]

theorem checkEndpoint_eq (field e : String) : checkEndpoint field e =
    if (Demand.endpoint (some e)).Holds then [] else [⟨field, (Demand.endpoint (some e)).message⟩] := by
  have same : isEndpoint e = true ↔ (Demand.endpoint (some e)).Holds := by
    rw [isEndpoint_iff]
    simp [Demand.Holds]
  by_cases holds : (Demand.endpoint (some e)).Holds
  · rw [if_pos holds, checkEndpoint, if_pos (same.2 holds)]
  · rw [if_neg holds, checkEndpoint, if_neg (mt same.1 holds)]
    rfl

variable (c : ServiceHost.Config)

theorem Rule.report_of_applies {c : ServiceHost.Config} {r : Rule} (applies : r.Applies c) :
    r.report c = if (r.demand c).Holds then [] else [⟨r.field, (r.demand c).message⟩] := by
  by_cases holds : (r.demand c).Holds
  · rw [if_pos holds, report, if_neg fun unmet => unmet.2 holds]
  · rw [if_neg holds, report, if_pos ⟨applies, holds⟩]
    rfl

theorem Rule.report_of_not_applies {c : ServiceHost.Config} {r : Rule} (exempt : ¬ r.Applies c) : r.report c = [] :=
  if_neg fun unmet => exempt unmet.1

theorem checkEndpoints_eq {c : ServiceHost.Config} (on : c.coordination.enabled = true) :
    checkEndpoints c.coordination.endpoints =
      ((List.range c.coordination.endpoints.length).map Rule.endpoint).flatMap (·.report c) := by
  rw [checkEndpoints, List.flatMap_def, List.map_map]
  refine congrArg _ (List.ext_getElem (by simp) fun i there _ => ?_)
  rw [List.length_mapIdx] at there
  have demand : (Rule.endpoint i).demand c = .endpoint (some c.coordination.endpoints[i]) :=
    congrArg Demand.endpoint (List.getElem?_eq_getElem there)
  have applies : (Rule.endpoint i).Applies c := on
  rw [List.getElem_mapIdx, checkEndpoint_eq, List.getElem_map, List.getElem_range, Function.comp_apply,
    Rule.report_of_applies applies, demand]
  rfl

theorem Server.problems_eq :
    c.server.problems = [.bindAddress, .requestTimeout, .bodyLimit].flatMap (Rule.report c) := by
  have bind : (Rule.bindAddress).Applies c := trivial
  have request : (Rule.requestTimeout).Applies c := trivial
  have body : (Rule.bodyLimit).Applies c := trivial
  rw [Server.problems, checkAddress_eq, checkPositive_eq, checkPositive_eq, List.flatMap_cons, List.flatMap_cons,
    List.flatMap_singleton, Rule.report_of_applies bind, Rule.report_of_applies request,
    Rule.report_of_applies body, List.append_assoc]
  rfl

theorem Coordination.problems_eq :
    c.coordination.problems = (Rule.someEndpoint :: ((List.range c.coordination.endpoints.length).map .endpoint ++
      [.dialTimeout])).flatMap (Rule.report c) := by
  rw [Coordination.problems]
  by_cases on : c.coordination.enabled = true
  · have some : (Rule.someEndpoint).Applies c := on
    have dial : (Rule.dialTimeout).Applies c := on
    have first (es : List String) : (if es.isEmpty = true then
        [(⟨"coordination.endpoints", "at least one endpoint is required when coordination is enabled"⟩ : Problem)]
        else []) = if (Demand.nonempty es.length).Holds then []
        else [⟨Rule.someEndpoint.field, (Demand.nonempty es.length).message⟩] := by
      cases es <;> rfl
    rw [if_neg (by simp [on]), checkEndpoints_eq on, checkPositive_eq, first, List.flatMap_cons, List.flatMap_append,
      List.flatMap_singleton, Rule.report_of_applies some, Rule.report_of_applies dial, List.append_assoc]
    rfl
  · rw [if_pos (by simpa using on), eq_comm, List.flatMap_eq_nil_iff]
    intro r mem
    refine Rule.report_of_not_applies ?_
    simp only [List.mem_cons, List.mem_append, List.mem_map, List.not_mem_nil, or_false] at mem
    rcases mem with rfl | ⟨i, -, rfl⟩ | rfl <;> exact on

theorem Lifecycle.problems_eq :
    c.lifecycle.problems = [.shutdownTimeout, .startupTimeout].flatMap (Rule.report c) := by
  have stop : (Rule.shutdownTimeout).Applies c := trivial
  have start : (Rule.startupTimeout).Applies c := trivial
  rw [Lifecycle.problems, checkPositive_eq, checkPositive_eq, List.flatMap_cons, List.flatMap_singleton,
    Rule.report_of_applies stop, Rule.report_of_applies start]
  rfl

theorem Observability.problems_eq : c.observability.problems = Rule.report c .metricsAddress := by
  rw [Observability.problems]
  by_cases on : c.observability.metricsEnabled = true
  · have metrics : (Rule.metricsAddress).Applies c := on
    rw [if_pos on, checkAddress_eq, Rule.report_of_applies metrics]
    rfl
  · rw [if_neg on, Rule.report_of_not_applies (r := .metricsAddress) on]

theorem problems_eq : c.problems = c.broken.map (·.problem c) := by
  rw [map_broken, ServiceHost.Config.problems, Server.problems_eq, Coordination.problems_eq, Lifecycle.problems_eq,
    Observability.problems_eq, rules]
  simp only [List.flatMap_append, List.flatMap_cons, List.flatMap_nil, List.append_assoc, List.append_nil]

/-! ## Fields -/

/-- The field that a report is about, without an index. -/
def root (field : String) : String := String.ofList (field.toList.takeWhile (· != '['))

namespace Rule

theorem toList_field_endpoint (i : Nat) :
    (endpoint i).field.toList = "coordination.endpoints".toList ++ '[' :: ((toString i).toList ++ [']']) := by
  simp [field, path]

theorem root_field (r : Rule) : root r.field = path r.key.1 r.key.2 := by
  cases r with
  | endpoint i =>
    have passed : ∀ c ∈ "coordination.endpoints".toList, (c != '[') = true := by simp
    rw [root, toList_field_endpoint, List.takeWhile_append_of_pos passed]
    rfl
  | _ => rfl

theorem place_of_field (r : Rule) : r.place = (schema.map fun x => path x.1 x.2).idxOf (root r.field) := by
  rw [root_field]
  cases r <;> rfl

theorem field_ne_of_before {a b : Rule} (before : a.Before b) : a.field ≠ b.field := by
  intro same
  have place : a.place = b.place := by rw [place_of_field, place_of_field, same]
  rcases before with less | ⟨-, less⟩
  · omega
  · cases b with
    | endpoint j =>
      cases a with
      | endpoint i =>
        have digits : (toString i).toList = (toString j).toList := by
          have whole := congrArg String.toList same
          rw [toList_field_endpoint, toList_field_endpoint] at whole
          simpa using whole
        have index : i = j := by
          have read := Text.natural?_toString i
          rw [digits, Text.natural?_toString] at read
          exact (Option.some.inj read).symm
        simp [Rule.index, index] at less
      | someEndpoint =>
        have whole := congrArg (List.length ∘ String.toList) same
        rw [Function.comp_apply, Function.comp_apply, toList_field_endpoint] at whole
        simp [field, path, key] at whole
      | _ => simp [place_eq] at place
    | _ => cases less

end Rule

theorem nodup_fields : (c.problems.map (·.field)).Nodup := by
  rw [problems_eq, List.map_map]
  exact List.pairwise_map.2 (c.pairwise_broken.imp Rule.field_ne_of_before)

/-- The reports about some fields only depend on what the rules about those fields demand. -/
theorem filter_problems_congr {c c' : ServiceHost.Config} (keep : String → Bool)
    (same : ∀ r : Rule, keep r.field = true →
      (r.Applies c ↔ r.Applies c') ∧ (r.Applies c → r.demand c = r.demand c')) :
    c.problems.filter (keep ·.field) = c'.problems.filter (keep ·.field) := by
  have kept : c.broken.filter (keep ·.field) = c'.broken.filter (keep ·.field) := by
    refine List.Pairwise.eq_of_mem_iff (c.pairwise_broken.filter _) (c'.pairwise_broken.filter _) fun r => ?_
    rw [List.mem_filter, List.mem_filter, mem_broken, mem_broken]
    refine and_congr_left fun keeps => ?_
    obtain ⟨applies, demand⟩ := same r keeps
    rw [Rule.Broken, Rule.Broken, ← applies]
    exact and_congr_right fun on => by rw [demand on]
  have split (c : ServiceHost.Config) : c.problems.filter (keep ·.field) =
      (c.broken.filter (keep ·.field)).map (·.problem c) := by
    rw [problems_eq, List.filter_map]
    rfl
  rw [split, split, ← kept]
  refine List.map_congr_left fun r mem => ?_
  rw [List.mem_filter, mem_broken] at mem
  rw [Rule.problem, Rule.problem, (same r mem.2).2 mem.1.1]

/-- Two configurations with the same fields, one of them apart. -/
def SameBut (n k : String) (c c' : ServiceHost.Config) : Prop :=
  ∀ n' k', (n', k') ≠ (n, k) → c.setting? n' k' = c'.setting? n' k'

/-- The fields that turn rules on and off. -/
def switches : List (String × String) := [("coordination", "enabled"), ("observability", "metrics_enabled")]

/-- The reports that are not about one field. -/
def elsewhere (n k : String) (ps : List Problem) : List Problem := ps.filter (root ·.field != path n k)

def setEndpoint (c : ServiceHost.Config) (i : Nat) (e : String) : ServiceHost.Config :=
  { c with coordination := { c.coordination with endpoints := c.coordination.endpoints.set i e } }

section

variable {c c' : ServiceHost.Config}

theorem Rule.demand_congr {r : Rule} (same : c.setting? r.key.1 r.key.2 = c'.setting? r.key.1 r.key.2) :
    r.demand c = r.demand c' := by
  cases r with
  | bindAddress | metricsAddress => exact congrArg Demand.address (Setting.text.inj (Option.some.inj same))
  | someEndpoint =>
    exact congrArg (fun es : List String => Demand.nonempty es.length) (Setting.texts.inj (Option.some.inj same))
  | endpoint i =>
    exact congrArg (fun es : List String => Demand.endpoint es[i]?) (Setting.texts.inj (Option.some.inj same))
  | _ => exact congrArg Demand.positive (Setting.natural.inj (Option.some.inj same))

theorem Rule.applies_congr (same : ∀ s ∈ switches, c.setting? s.1 s.2 = c'.setting? s.1 s.2) (r : Rule) :
    r.Applies c ↔ r.Applies c' := by
  have client : c.coordination.enabled = c'.coordination.enabled :=
    Setting.flag.inj (Option.some.inj (same _ (.head _)))
  have metrics : c.observability.metricsEnabled = c'.observability.metricsEnabled :=
    Setting.flag.inj (Option.some.inj (same _ (.tail _ (.head _))))
  cases r <;> simp [Applies, client, metrics]

theorem SameBut.elsewhere {n k : String} (same : SameBut n k c c') (steady : (n, k) ∉ switches) :
    elsewhere n k c.problems = elsewhere n k c'.problems := by
  refine filter_problems_congr (root · != path n k) fun r other => ?_
  constructor
  · refine Rule.applies_congr (fun s switch => same _ _ fun changed => ?_) r
    exact steady (changed ▸ switch)
  · intro _
    refine Rule.demand_congr (same _ _ fun key => ?_)
    have path : path r.key.1 r.key.2 = path n k := congrArg (fun x => Config.path x.1 x.2) key
    simp [Rule.root_field, path] at other

theorem filter_setEndpoint (i : Nat) (e : String) :
    (c.setEndpoint i e).problems.filter (·.field != (Rule.endpoint i).field) =
      c.problems.filter (·.field != (Rule.endpoint i).field) := by
  refine filter_problems_congr (· != (Rule.endpoint i).field) fun r other => ?_
  constructor
  · cases r <;> exact Iff.rfl
  · intro _
    cases r with
    | endpoint j =>
      have apart : i ≠ j := by
        rintro rfl
        simp at other
      exact congrArg Demand.endpoint (List.getElem?_set_ne apart)
    | someEndpoint => exact congrArg Demand.nonempty List.length_set
    | _ => rfl

theorem problems_congr (same : ∀ r : Rule, (r.Applies c ↔ r.Applies c') ∧ (r.Applies c → r.demand c = r.demand c')) :
    c.problems = c'.problems := by
  have all := filter_problems_congr (fun _ => true) fun r _ => same r
  simpa using all

end

/-- What the checks say of a configuration. -/
structure IsChecked (c : ServiceHost.Config) : Prop where
  reported : ∃ broken : List Rule, c.problems = broken.map (·.problem c) ∧ broken.Pairwise Rule.Before ∧
    ∀ r : Rule, r ∈ broken ↔ r.Applies c ∧ ¬ (r.demand c).Holds
  once : (c.problems.map (·.field)).Nodup
  accepted : validate c = .ok c ↔ ∀ r : Rule, r.Applies c → (r.demand c).Holds
  refused : validate c ≠ .ok c → validate c = .error (.invalid c.problems)

/-- What the reports depend on. -/
structure ReportsByField (c : ServiceHost.Config) : Prop where
  field : ∀ c' n k, SameBut n k c c' → (n, k) ∉ switches → elsewhere n k c.problems = elsewhere n k c'.problems
  endpoint : ∀ i e, (c.setEndpoint i e).problems.filter (·.field != (Rule.endpoint i).field) =
    c.problems.filter (·.field != (Rule.endpoint i).field)
  coordination : c.coordination.enabled = false → ∀ s : Coordination, s.enabled = false →
    { c with coordination := s }.problems = c.problems
  metrics : c.observability.metricsEnabled = false → ∀ address,
    { c with observability := { c.observability with metricsAddress := address } }.problems = c.problems

section

variable {c c' : ServiceHost.Config}

theorem problems_eq_nil_iff : c.problems = [] ↔ ∀ r : Rule, r.Applies c → (r.demand c).Holds := by
  rw [problems_eq, List.map_eq_nil_iff, List.eq_nil_iff_forall_not_mem]
  refine forall_congr' fun r => ?_
  rw [mem_broken, Rule.Broken, not_and, not_not]

theorem validate_of_problems (some : c.problems ≠ []) : validate c = .error (.invalid c.problems) :=
  if_neg (by simpa using some)

theorem validate_eq_ok_iff : validate c = .ok c' ↔ c.problems = [] ∧ c' = c := by
  by_cases none : c.problems = []
  · simp [validate, none, eq_comm]
  · simp [validate_of_problems none, none]

theorem isChecked (c : ServiceHost.Config) : IsChecked c where
  reported := ⟨c.broken, problems_eq c, pairwise_broken c, fun _ => mem_broken⟩
  once := nodup_fields c
  accepted := by rw [validate_eq_ok_iff, and_iff_left rfl, problems_eq_nil_iff]
  refused := by
    rw [Ne, validate_eq_ok_iff, and_iff_left rfl]
    exact validate_of_problems

theorem reportsByField (c : ServiceHost.Config) : ReportsByField c where
  field _ _ _ same steady := same.elsewhere steady
  endpoint := filter_setEndpoint
  coordination off s off' := by
    refine problems_congr fun r => ?_
    cases r <;> simp [Rule.Applies, Rule.demand, off, off']
  metrics off address := by
    refine problems_congr fun r => ?_
    cases r <;> simp [Rule.Applies, Rule.demand, off]

theorem problems_of_load {f : File} (loaded : load f = .ok c) : c.problems = [] := by
  unfold load at loaded
  cases text : f.text with
  | error e =>
    rw [text] at loaded
    cases loaded
  | ok s =>
    rw [text] at loaded
    have parsed : parse s = .ok c := loaded
    unfold parse at parsed
    split at parsed
    · cases parsed
    · obtain ⟨none, rfl⟩ := validate_eq_ok_iff.1 parsed
      exact none

end

end ServiceHost.Config

namespace ServiceHost.CommandLine

open Config

/-- The configurations that the service is started with. -/
inductive RunsWith (read : String → File) (arguments : List String) : ServiceHost.Config → Prop where
  | default (asked : parse arguments = some (.serve none)) : RunsWith read arguments {}
  | loaded {path : String} {c : ServiceHost.Config} (asked : parse arguments = some (.serve (some path)))
    (loads : load (read path) = .ok c) : RunsWith read arguments c

variable {read : String → File} {arguments : List String} {c : ServiceHost.Config}

theorem RunsWith.execute (runs : RunsWith read arguments c) (s : Surroundings) :
    execute s read arguments = serve s c := by
  cases runs with
  | default asked => rw [CommandLine.execute, asked]
  | loaded asked loads => simp only [CommandLine.execute, asked, loads]

theorem RunsWith.problems (runs : RunsWith read arguments c) : c.problems = [] := by
  cases runs with
  | default _ => decide
  | loaded _ loads => exact problems_of_load loads

/-- Reports are the broken rules in order, each depends on its own field, and a service that runs has its
addresses. -/
theorem reports_are_the_broken_rules (c : ServiceHost.Config) :
    IsChecked c ∧ ReportsByField c ∧ ∀ read arguments, RunsWith read arguments c →
      (∀ s, execute s read arguments = serve s c) ∧ IsAddress c.server.bindAddress ∧
        (c.observability.metricsEnabled = true → IsAddress c.observability.metricsAddress) := by
  refine ⟨isChecked c, reportsByField c, fun read arguments runs => ⟨runs.execute, ?_⟩⟩
  have holds := problems_eq_nil_iff.1 runs.problems
  exact ⟨holds .bindAddress trivial, holds .metricsAddress⟩

/-- A service that runs with a file which moves its server and turns its metrics on. -/
theorem loaded_service_has_its_addresses :
    ∃ (read : String → File) (c : ServiceHost.Config), RunsWith read ["--config", "service.toml"] c ∧
      c.server.bindAddress = "[::1]:8443" ∧ c.observability.metricsEnabled = true ∧
      c.observability.metricsAddress = "127.0.0.1:9100" ∧ IsAddress "[::1]:8443" ∧ IsAddress "127.0.0.1:9100" := by
  have loads : load (.bytes ("[observability]\nmetrics_enabled = true\nmetrics_address = '127.0.0.1:9100'\n" ++
      "[server]\nbind_address = \"[::1]:8443\"\n").toUTF8.toList) = .ok
        { server := { bindAddress := "[::1]:8443" }
          observability := { metricsEnabled := true, metricsAddress := "127.0.0.1:9100" } } := by
    decide +kernel
  have asked : CommandLine.parse ["--config", "service.toml"] = some (.serve (some "service.toml")) := by decide
  have runs : RunsWith (fun _ => .bytes _) ["--config", "service.toml"] _ := .loaded asked loads
  obtain ⟨-, server, metrics⟩ := (reports_are_the_broken_rules _).2.2 _ _ runs
  exact ⟨_, _, runs, rfl, rfl, rfl, server, metrics rfl⟩

example :
    let c : ServiceHost.Config :=
      { coordination := { enabled := true, endpoints := ["a", "b:1", ""] }
        lifecycle := { startupTimeoutMs := 0 } }
    c.problems.map (·.field) =
      ["coordination.endpoints[0]", "coordination.endpoints[2]", "lifecycle.startup_timeout_ms"] := by
  decide

end ServiceHost.CommandLine
