import ServiceHost.Proofs.Config.Written

/-! A TOML text of a configuration is read back. The statements that are not about fields do the same whether
there are fields or not, and leave the fields alone; so the document has the fields that the lines set, and is
decoded to the configuration, which is then checked like the one that its JSON form gives. -/

namespace ServiceHost.Config

open Document

/-! ## What the lines build -/

section

open Toml (Draft Members)

/-- The document without the fields. -/
def bare (d : Draft) : Draft := { d with members := d.members.without hasField }

/-- Sections are tables, and an open one is there. -/
structure Sound (d : Draft) : Prop where
  isOpen : d.members.Open hasField
  there : ∀ n, d.current = [n] → hasSection n = true → (d.members.lookup n).isSome

/-- What has been done to the document by a statement that is not about fields. -/
structure Spared (d d' : Draft) : Prop where
  isOpen : d.members.Open hasField → d'.members.Open hasField
  member : ∀ n k, hasField n k = true →
    Members.member? k (d'.members.lookup n) = Members.member? k (d.members.lookup n)
  there : ∀ n, (d.members.lookup n).isSome → (d'.members.lookup n).isSome

theorem exists_spared {d e : Draft} {t : Toml.Statement} (spares : Members.Spares hasField (t.act d.current))
    (done : (bare d).add t = some e) :
    ∃ d', d.add t = some d' ∧ bare d' = e ∧ d'.current = t.next d.current ∧ Spared d d' := by
  have act : (t.act d.current (d.members.without hasField)).map (fun ms => Draft.mk ms (t.next d.current)) =
      some e := (Draft.add_eq (bare d) t).symm.trans done
  rw [spares.commutes, Option.map_map, Option.map_eq_some_iff] at act
  obtain ⟨ms, acted, rfl⟩ := act
  refine ⟨⟨ms, t.next d.current⟩, by rw [Draft.add_eq, acted]; rfl, rfl, rfl, ?_⟩
  exact ⟨spares.isOpen _ _ acted, spares.member _ _ acted, fun n => spares.there _ _ n acted⟩

theorem isSome_sections (c : ServiceHost.Config) (n : String) :
    (c.sections.lookup n).isSome = hasSection n := by
  rw [hasSection, isSome_lookup, isSome_lookup]
  rfl

/-- Which settings there are does not depend on their values. -/
theorem isSome_setting? (c : ServiceHost.Config) (n k : String) : (c.setting? n k).isSome = hasField n k := by
  have keys (c : ServiceHost.Config) : (c.setting? n k).isSome =
      ((c.sections.map fun s => (s.1, s.2.map (·.1))).lookup n).any (·.contains k) := by
    rw [setting?, lookup_map_snd]
    cases c.sections.lookup n with
    | none => rfl
    | some fields => exact isSome_lookup fields k
  rw [hasField, keys, keys]
  rfl

theorem hasField_of_set {c : ServiceHost.Config} {n k : String} {x : Setting} (set : c.setting? n k = some x) :
    hasField n k = true := by
  rw [← isSome_setting? c, set]
  rfl

theorem hasSection_of_hasField {n k : String} (known : hasField n k = true) : hasSection n = true := by
  simp only [hasField, setting?, Option.bind_eq_bind] at known
  rw [hasSection]
  cases listed : (sections {}).lookup n with
  | none =>
    rw [listed] at known
    cases known
  | some fields => rfl

/-- No section is without fields. -/
theorem exists_hasField {n : String} (known : hasSection n = true) : ∃ k, hasField n k = true := by
  obtain ⟨fields, listed⟩ := Option.isSome_iff_exists.1 known
  have nonempty : ∀ s ∈ sections {}, ∃ k, (s.2.lookup k).isSome = true := by
    simp only [sections, List.forall_mem_cons, List.not_mem_nil, false_imp_iff, implies_true, and_true]
    exact ⟨⟨"bind_address", rfl⟩, ⟨"enabled", rfl⟩, ⟨"handle_signals", rfl⟩, ⟨"log_level", rfl⟩⟩
  obtain ⟨k, there⟩ := nonempty _ (mem_of_lookup listed)
  exact ⟨k, by rw [hasField, setting?, listed]; exact there⟩

/-- A setting of a field that is not there yet, in the section that is open. -/
theorem exists_set {d : Draft} {n k : String} (x : Setting) (current : d.current = [n])
    (known : hasField n k = true) (sound : Sound d)
    (absent : Members.member? k (d.members.lookup n) = none) :
    ∃ d', d.add (.entry [k] x.term) = some d' ∧ bare d' = bare d ∧ d'.current = [n] ∧ Sound d' ∧
      ∀ n' k', Members.member? k' (d'.members.lookup n') =
        if n' = n ∧ k' = k then some (.value x.value) else Members.member? k' (d.members.lookup n') := by
  have there := sound.there n current (hasSection_of_hasField known)
  obtain ⟨ms, inserted, hidden, isOpen, there, member⟩ :=
    Members.exists_field x.value known there sound.isOpen absent
  refine ⟨⟨ms, d.current⟩, ?_, ?_, current, ⟨isOpen, fun n' open' listed => ?_⟩, member⟩
  · have act : (Toml.Statement.entry [k] x.term).act d.current d.members = some ms := by
      rw [Toml.Statement.act, x.value?_term, Option.bind_some, current, inserted]
    rw [Draft.add_eq, act]
    rfl
  · rw [bare, hidden]
    rfl
  · exact there n' (sound.there n' open' listed)

/-- A section cannot be opened by what is about something else. -/
theorem current_of_next {p : Toml.Path} {t : Toml.Statement} {n : String}
    (unknown : Members.Unknown hasField (t.place p)) (next : t.next p = [n]) (known : hasSection n = true) :
    p = [n] := by
  have never : ¬ Members.Unknown hasField [n] := by
    rintro (outside | _)
    obtain ⟨k, field⟩ := exists_hasField known
    rw [outside k] at field
    cases field
  cases t with
  | entry => exact next
  | header path => exact absurd (next ▸ unknown) never
  | item path => exact absurd (next ▸ unknown) never

/-- Lines set fields to what they are. -/
theorem set_of_inPlace {c : ServiceHost.Config} {p : Toml.Path} {ls : List Line} (inPlace : InPlace c p ls)
    {n k : String} {x : Setting} (mem : ((n, k), x) ∈ ls.filterMap Line.field?) : c.setting? n k = some x := by
  induction inPlace with
  | done => cases mem
  | table _ _ ih => exact ih mem
  | other _ _ ih => exact ih mem
  | field set _ ih =>
    rcases List.mem_cons.1 mem with same | mem
    · cases same
      exact set
    · exact ih mem

theorem hasField_of_inPlace {c : ServiceHost.Config} {p : Toml.Path} {ls : List Line} (inPlace : InPlace c p ls)
    {n k : String} (mem : (n, k) ∈ (ls.filterMap Line.field?).map (·.1)) : hasField n k = true := by
  obtain ⟨⟨_, x⟩, mem, rfl⟩ := List.mem_map.1 mem
  exact hasField_of_set (set_of_inPlace inPlace mem)

/-- What the lines say of a field, if they say anything. -/
def told? (ls : List Line) (n k : String) : Option Setting := (ls.filterMap Line.field?).lookup (n, k)

/-- The lines make of the document one that has what they say of the fields, and else what it had. -/
def Builds (ls : List Line) (d : Draft) : Prop :=
  ∃ d', (ls.map Line.statement).foldlM Draft.add d = some d' ∧ d'.members.Open hasField ∧
    ∀ n k, hasField n k = true → Members.member? k (d'.members.lookup n) =
      ((told? ls n k).map fun x => .value x.value).or (Members.member? k (d.members.lookup n))

theorem Builds.spared {l : Line} {ls : List Line} {d d' : Draft} (builds : Builds ls d')
    (added : d.add l.statement = some d') (spared : Spared d d') (silent : l.field? = none) :
    Builds (l :: ls) d := by
  obtain ⟨d'', built, isOpen, members⟩ := builds
  refine ⟨d'', ?_, isOpen, fun n k known => ?_⟩
  · rw [List.map_cons, List.foldlM_cons, added]
    exact built
  · rw [members n k known, spared.member n k known, told?, told?, List.filterMap_cons_none silent]

theorem Builds.set {n k : String} {x : Setting} {ls : List Line} {d d' : Draft} (builds : Builds ls d')
    (added : d.add (.entry [k] x.term) = some d') (new : (n, k) ∉ (ls.filterMap Line.field?).map (·.1))
    (member : ∀ n' k', Members.member? k' (d'.members.lookup n') =
      if n' = n ∧ k' = k then some (.value x.value) else Members.member? k' (d.members.lookup n')) :
    Builds (.field n k x :: ls) d := by
  obtain ⟨d'', built, isOpen, members⟩ := builds
  refine ⟨d'', ?_, isOpen, fun n' k' known => ?_⟩
  · rw [List.map_cons, List.foldlM_cons]
    change (d.add (.entry [k] x.term)).bind _ = _
    rw [added]
    exact built
  · have told : told? (.field n k x :: ls) n' k' = if n' = n ∧ k' = k then some x else told? ls n' k' := by
      simp only [told?, List.filterMap_cons_some (show (Line.field n k x).field? = _ from rfl),
        lookup_cons_ite, Prod.mk.injEq]
    rw [members n' k' known, member, told]
    split
    · next here =>
      obtain ⟨rfl, rfl⟩ := here
      rw [told?, lookup_eq_none_of_not_mem new]
      rfl
    · rfl

/-- A statement that is not about fields is done with the fields as it is without them. -/
theorem Builds.of_spares {l : Line} {ls : List Line} {d e : Draft} (silent : l.field? = none)
    (spares : Members.Spares hasField (l.statement.act d.current))
    (others : (((l :: ls).filter (!·.isField)).map Line.statement).foldlM Draft.add (bare d) = some e)
    (more : ∀ d', d.add l.statement = some d' → d'.current = l.statement.next d.current → Spared d d' →
      ((ls.filter (!·.isField)).map Line.statement).foldlM Draft.add (bare d') = some e → Builds ls d') :
    Builds (l :: ls) d := by
  have kept : (l :: ls).filter (!·.isField) = l :: ls.filter (!·.isField) := by
    cases l with
    | field => cases silent
    | table => rfl
    | other => rfl
  rw [kept, List.map_cons, List.foldlM_cons] at others
  obtain ⟨e', done, others⟩ := Option.bind_eq_some_iff.1 others
  obtain ⟨d', added, rfl, next, spared⟩ := exists_spared spares done
  exact (more d' added next spared others).spared added spared silent

/-- No field that these lines set is there yet. -/
def Fresh (ls : List Line) (d : Draft) : Prop :=
  ∀ n k, (n, k) ∈ (ls.filterMap Line.field?).map (·.1) → Members.member? k (d.members.lookup n) = none

theorem Fresh.spared {c : ServiceHost.Config} {p : Toml.Path} {ls : List Line} {d d' : Draft}
    (fresh : Fresh ls d) (inPlace : InPlace c p ls) (spared : Spared d d') : Fresh ls d' := fun n k mem => by
  rw [spared.member n k (hasField_of_inPlace inPlace mem), fresh n k mem]

theorem builds_of_inPlace {c : ServiceHost.Config} {p : Toml.Path} {ls : List Line} (inPlace : InPlace c p ls)
    (once : ((ls.filterMap Line.field?).map (·.1)).Nodup) {d e : Draft} (current : d.current = p)
    (sound : Sound d) (fresh : Fresh ls d)
    (others : ((ls.filter (!·.isField)).map Line.statement).foldlM Draft.add (bare d) = some e) :
    Builds ls d := by
  induction inPlace generalizing d with
  | done => exact ⟨d, rfl, sound.isOpen, fun n k _ => rfl⟩
  | @table _ n ls known more ih =>
    refine .of_spares rfl (Members.spares_openTable hasField n) others fun d' added next spared others => ?_
    have sound' : Sound d' := by
      refine ⟨spared.isOpen sound.isOpen, fun n' open' _ => ?_⟩
      obtain ⟨rfl, -⟩ := List.cons.inj (next.symm.trans open')
      rw [Draft.add_eq, Option.map_eq_some_iff] at added
      obtain ⟨ms, opened, rfl⟩ := added
      exact Members.isSome_openTable opened
    exact ih once next sound' (Fresh.spared fresh more spared) others
  | @field n k x ls set more ih =>
    obtain ⟨new, once⟩ := List.nodup_cons.1 once
    obtain ⟨d', added, hidden, current', sound', member⟩ :=
      exists_set x current (hasField_of_set set) sound (fresh n k List.mem_cons_self)
    have fresh' : Fresh ls d' := by
      intro n' k' mem
      rw [member, if_neg, fresh n' k' (List.mem_cons_of_mem _ mem)]
      rintro ⟨rfl, rfl⟩
      exact new mem
    rw [List.filter_cons_of_neg (by simp [Line.isField]), ← hidden] at others
    exact (ih once current' sound' fresh' others).set added new member
  | @other _ t ls unknown more ih =>
    subst current
    have spares := Members.spares_of_unknown unknown (t.actsAt_place d.current)
    refine .of_spares rfl spares others fun d' _ next spared others => ?_
    have sound' : Sound d' := by
      refine ⟨spared.isOpen sound.isOpen, fun n open' listed => ?_⟩
      exact spared.there n (sound.there n (current_of_next unknown (next ▸ open') listed) listed)
    exact ih once next sound' (Fresh.spared fresh more spared) others

/-- Different tables can be opened one after the other. -/
theorem exists_tables {ns : List String} (once : ns.Nodup) {d : Draft}
    (fresh : ∀ n ∈ ns, d.members.lookup n = none) :
    ∃ e, (ns.map fun n => (Line.table n).statement).foldlM Draft.add d = some e := by
  induction ns generalizing d with
  | nil => exact ⟨d, rfl⟩
  | cons n ns ih =>
    obtain ⟨new, once⟩ := List.nodup_cons.1 once
    obtain ⟨ms, opened, same⟩ := Members.exists_openTable (fresh n List.mem_cons_self)
    have added : d.add (Line.table n).statement = some ⟨ms, [n]⟩ := by
      change d.add (.header [n]) = _
      rw [Draft.add_eq]
      change (d.members.openTable [n]).map _ = _
      rw [opened]
      rfl
    obtain ⟨e, done⟩ := ih once (d := ⟨ms, [n]⟩) fun m mem => by
      rw [← fresh m (List.mem_cons_of_mem _ mem)]
      exact same m fun here => new (here ▸ mem)
    exact ⟨e, by rw [List.map_cons, List.foldlM_cons, added]; exact done⟩

theorem filter_eq_tables {ls : List Line} (alone : ∀ t, .other t ∉ ls) :
    ls.filter (!·.isField) = (ls.filterMap Line.table?).map Line.table := by
  induction ls with
  | nil => rfl
  | cons l ls ih =>
    have more := ih fun t mem => alone t (List.mem_cons_of_mem _ mem)
    cases l with
    | table n => rw [List.filter_cons_of_pos rfl, more]; rfl
    | field n k x => rw [List.filter_cons_of_neg (by simp [Line.isField]), more]; rfl
    | other t => exact absurd List.mem_cons_self (alone t)

end

/-! ## What is decoded -/

theorem field?_toml (ms : Toml.Members) (k : String) :
    (Document.table (ofTomlMembers (Toml.memberValues ms))).field? 0 k =
      (ms.lookup k).map fun n => ofToml n.toValue := by
  have same : ofTomlMembers (Toml.memberValues ms) = ms.map fun m => (m.1, ofToml m.2.toValue) := by
    induction ms with
    | nil => rfl
    | cons m rest ih => rw [Toml.memberValues, ofTomlMembers, List.map_cons, ih]
  rw [Document.field?, find?_eq_lookup, same, lookup_map_snd fun n : Toml.Node => ofToml n.toValue]

/-- A section is read as a table of what its table has. -/
theorem section?_toml {ms : Toml.Members} (isOpen : ms.Open hasField) {n : String} (known : hasSection n = true) :
    ∃ members, section? (.table (ofTomlMembers (Toml.memberValues ms))) n = .table members ∧
      ∀ k, (Document.table members).field? 0 k =
        (Toml.Members.member? k (ms.lookup n)).map fun n => ofToml n.toValue := by
  rw [section?, field?_toml]
  cases found : ms.lookup n with
  | none => exact ⟨[], rfl, fun k => rfl⟩
  | some node =>
    obtain ⟨k, field⟩ := exists_hasField known
    obtain ⟨o, inner, rfl⟩ := isOpen n k field node found
    exact ⟨_, rfl, field?_toml inner⟩

namespace Presents

variable {ls : List Line} {c : ServiceHost.Config}

theorem builds (presents : Presents ls c) : Builds ls {} := by
  have rest : ∃ e, ((ls.filter (!·.isField)).map Line.statement).foldlM Toml.Draft.add {} = some e := by
    by_cases added : ∃ t, .other t ∈ ls
    · exact presents.others added
    · rw [filter_eq_tables fun t mem => added ⟨t, mem⟩, List.map_map]
      exact exists_tables presents.tables fun _ _ => rfl
  obtain ⟨e, rest⟩ := rest
  have sound : Sound {} := ⟨nofun, nofun⟩
  exact builds_of_inPlace presents.inPlace presents.fields rfl sound (fun _ _ _ => rfl) rest

/-- The lines tell a field as it is, unless it has its default. -/
theorem told (presents : Presents ls c) {n k : String} {x : Setting} (set : c.setting? n k = some x) :
    told? ls n k = some x ∨ told? ls n k = none ∧ setting? {} n k = some x := by
  cases told : told? ls n k with
  | some y =>
    have same := set_of_inPlace presents.inPlace (mem_of_lookup told)
    exact .inl (by rw [← set, same])
  | none =>
    refine .inr ⟨rfl, presents.missing n k x set fun mem => ?_⟩
    obtain ⟨⟨_, y⟩, mem, rfl⟩ := List.mem_map.1 mem
    have silent := List.lookup_eq_none_iff.1 told _ mem
    simp at silent

theorem gives (presents : Presents ls c) :
    ∃ d, (ls.map Line.statement).foldlM Toml.Draft.add {} = some d ∧
      Gives (.table (ofTomlMembers (Toml.memberValues d.members))) c := by
  obtain ⟨d, built, isOpen, members⟩ := presents.builds
  refine ⟨d, built, ⟨_, rfl⟩, fun n listed => ?_, fun n k x set => ?_⟩
  · obtain ⟨inner, same, -⟩ := section?_toml isOpen (isSome_sections c n ▸ listed)
    exact ⟨inner, same⟩
  · have known := hasField_of_set set
    obtain ⟨inner, same, each⟩ := section?_toml isOpen (hasSection_of_hasField known)
    rw [same, each, members n k known]
    rcases presents.told set with told | ⟨silent, default⟩
    · refine .inl ?_
      rw [told]
      exact congrArg some x.ofToml_value
    · refine .inr ⟨?_, default⟩
      rw [silent]
      rfl

end Presents

theorem natural_mem_naturals {c : ServiceHost.Config} {n k : String} {m : Nat}
    (set : c.setting? n k = some (.natural m)) : m ∈ c.naturals := by
  obtain ⟨fields, listed, mem⟩ := mem_of_setting? set
  simp only [sections, List.mem_cons, Prod.mk.injEq, List.not_mem_nil, or_false] at listed
  rcases listed with ⟨-, rfl⟩ | ⟨-, rfl⟩ | ⟨-, rfl⟩ | ⟨-, rfl⟩
  · simp [Server.fields] at mem
    rcases mem with ⟨-, rfl⟩ | ⟨-, rfl⟩ <;> simp [naturals]
  · simp [Coordination.fields] at mem
    simp [naturals, mem]
  · simp [Lifecycle.fields] at mem
    rcases mem with ⟨-, rfl⟩ | ⟨-, rfl⟩ <;> simp [naturals]
  · simp [Observability.fields] at mem

theorem fits_of_inPlace {c : ServiceHost.Config} (fits : ∀ n ∈ c.naturals, n ≤ 9223372036854775807)
    {p : Toml.Path} {ls : List Line} (inPlace : InPlace c p ls) : ∀ l ∈ ls, l.Fits := by
  rintro (_ | ⟨n, k, x⟩ | _) mem
  · trivial
  · have set := set_of_inPlace inPlace (List.mem_filterMap.2 ⟨_, mem, rfl⟩)
    cases x with
    | natural m => exact fits m (natural_mem_naturals set)
    | _ => trivial
  · trivial

theorem ofToml?_written {c : ServiceHost.Config} (fits : ∀ n ∈ c.naturals, n ≤ 9223372036854775807)
    {s : String} (written : WrittenAs c s) : ofToml? s = some c := by
  obtain ⟨ls, presents, lines⟩ := written
  have fit := fits_of_inPlace fits presents.inPlace
  have statements : Toml.statements? s = some (ls.map Line.statement) :=
    Toml.statements?_lines (fun l mem _ writes => l.readsAs (fit l mem) writes) lines
  obtain ⟨d, built, gives⟩ := presents.gives
  have read : Toml.read? s = some (Toml.memberValues d.members) := by
    rw [Toml.read?, statements, Option.bind_eq_bind, Option.bind_some, built]
    rfl
  rw [ofToml?, read]
  exact decode_of_gives .toml gives fun n mem => (fits n mem).trans (by decide)

theorem toml_text_is_read_back {c : ServiceHost.Config} (fits : ∀ n ∈ c.naturals, n ≤ 9223372036854775807)
    {s : String} (written : WrittenAs c s) :
    parse s = (if c.problems = [] then .ok c else .error (.invalid c.problems)) ∧
      (ofJson? c.toJson).map validate = some (parse s) ∧
      ((Json.Value.ofString? c.toJson.compact).bind ofJson?).map validate = some (parse s) := by
  have words : ∀ n ∈ c.naturals, n ≤ maxWord := fun n mem => (fits n mem).trans (by decide)
  have parsed : parse s = validate c := by rw [parse, ofToml?_written fits written]
  refine ⟨?_, ?_, ?_⟩
  · rw [parsed, validate]
    simp only [List.isEmpty_iff]
  · rw [ofJson?_toJson words, parsed]
    rfl
  · rw [ofJson?_compact words, parsed]
    rfl

/-- In another order, with sections and fields left out and others added. -/
theorem shuffled_text_is_read_back :
    let c : ServiceHost.Config :=
      { server := { bindAddress := "a\"b", maxBodyBytes := 1000 }, coordination := { endpoints := ["é:1"] } }
    let s := "[other] # not a section\n\n[coordination]\nendpoints = [\"\\u00e9:1\",]\n" ++
      "[server]\nmax_body_bytes = 1_000\nextra = true\nbind_address = \"a\\\"b\"\n"
    (∀ n ∈ c.naturals, n ≤ 9223372036854775807) ∧ WrittenAs c s ∧
      parse s = .error (.invalid
        [⟨"server.bind_address", "invalid address `a\"b`: invalid socket address syntax"⟩]) ∧
      (ofJson? c.toJson).map validate = some (parse s) := by
  intro c s
  have fits : ∀ n ∈ c.naturals, n ≤ 9223372036854775807 := by decide
  have bare (k : String) (good : k.toList ≠ [] ∧ k.toList.all Toml.isBareKeyChar = true) :
      Toml.WritesKey k k.toList := .bare good.1 (List.all_eq_true.1 good.2)
  have plain (c : Char) {cs w : List Char} (good : Toml.isLineChar c = true ∧ c ≠ '"' ∧ c ≠ '\\')
      (rest : Toml.WritesChars cs w) : Toml.WritesChars (c :: cs) (c :: w) :=
    .cons (.plain good.1 good.2.1 good.2.2) rest
  have none : Toml.Blanks [] := nofun
  have space : Toml.Blanks [' '] := by simp [Toml.Blanks, Toml.isBlank]
  have other := Line.Writes.other (Toml.readsAs_header none (bare "other" (by decide)) none)
  have coordination := Line.Writes.table none (bare "coordination" (by decide)) none
  have accented : Toml.WritesChar 'é' ['\\', 'u', '0', '0', 'e', '9'] := .code (.inl ⟨rfl, rfl⟩) rfl rfl
  have endpoint : Toml.WritesText "é:1" _ :=
    .mk (.cons accented (plain ':' (by decide) (plain '1' (by decide) .nil)))
  have endpoints := Line.Writes.field (n := "coordination") (bare "endpoints" (by decide)) space space
    (.texts (.mk (.more .none endpoint .none (.close .none))))
  have server := Line.Writes.table none (bare "server" (by decide)) none
  have thousand : Text.decimals 1000 = [1, 0, 0, 0] := by simp [Text.decimals]
  have digits : Toml.WritesDigits (Text.decimals 1000) ['1', '_', '0', '0', '0'] :=
    thousand ▸ .apart (by decide) (.next (by decide) (.next (by decide) (.one (by decide))))
  have most := Line.Writes.field (n := "server") (bare "max_body_bytes" (by decide)) space space
    (.natural (.unsigned digits))
  have extra := Line.Writes.other (Toml.readsAs_entry (bare "extra" (by decide)) space space
    (Toml.readsAsTerm_word Toml.isWord_true))
  have bind : Toml.WritesText "a\"b" _ :=
    .mk (plain 'a' (by decide) (.cons (.short (e := '"') (by decide)) (plain 'b' (by decide) .nil)))
  have address := Line.Writes.field (n := "server") (bare "bind_address" (by decide)) space space (.text bind)
  have comment : Toml.Comment ('#' :: " not a section".toList) := .mk (List.all_eq_true.1 (by decide))
  have inside := Toml.Lines.plain coordination <| .plain endpoints <| .plain server <| .plain most <|
    .plain extra <| .plain address .done
  have lines := Toml.Lines.line none other (.next space (.inr comment) .lf _) <|
    .blank (.next none (.inl rfl) .lf _) inside
  have missing : ∀ s ∈ c.sections, ∀ x ∈ s.2, (s.1, x.1) ∉ [("coordination", "endpoints"),
      ("server", "max_body_bytes"), ("server", "bind_address")] → setting? {} s.1 x.1 = some x.2 := by
    decide
  have written : WrittenAs c s := by
    refine ⟨_, ⟨?_, by decide, by decide, fun n k x set absent => ?_, fun _ => ⟨_, rfl⟩⟩,
      Eq.subst (motive := Toml.Lines Line.Writes _) (by decide +kernel : _ = s.toList) lines⟩
    · exact .other (.outside fun _ => rfl) <| .table rfl <| .field rfl <| .table rfl <| .field rfl <|
        .other (.inside rfl) <| .field rfl .done
    · obtain ⟨fields, listed, mem⟩ := mem_of_setting? set
      exact missing (n, fields) listed (k, x) mem absent
  obtain ⟨parsed, json, -⟩ := toml_text_is_read_back fits written
  exact ⟨fits, written, parsed.trans (by decide), json⟩

end ServiceHost.Config
