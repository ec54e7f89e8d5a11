import Mathlib.Data.List.Nodup
import Mathlib.Logic.Relation
import ServiceHost.Proofs.Config.Overlay

/-! Ways to write one configuration. The members of a record may stand in any order and among others, and a
record that gives only its first fields may be written as an array; the configuration that is read stays
the same, and its JSON form is read as itself. -/

namespace ServiceHost.Config

open Document Relation

/-! ## Records -/

/-- The members with these keys. -/
def known (keys : List String) (ms : List (String × Json.Value)) : List (String × Json.Value) :=
  ms.filter (keys.contains ·.1)

/-- Another way to write a record with these fields. -/
inductive Restyled (keys : List String) : Json.Value → Json.Value → Prop
  /-- The members in another order, and others that are no field's. -/
  | object {ms ms' : List (String × Json.Value)} : ((known keys ms).map (·.1)).Nodup →
      (known keys ms).Perm (known keys ms') → Restyled keys (.obj ms) (.obj ms')
  /-- The values of the first fields in their order, when these are all that is given. -/
  | array {ms : List (String × Json.Value)} {items : List Json.Value} : items.length ≤ keys.length →
      (known keys ms).Perm (keys.zip items) → Restyled keys (.obj ms) (.arr items)

theorem lookup_known {keys : List String} {k : String} (known : k ∈ keys) (ms : List (String × Json.Value)) :
    (Config.known keys ms).lookup k = ms.lookup k := by
  induction ms with
  | nil => rfl
  | cons m rest ih =>
    obtain ⟨j, v⟩ := m
    rw [lookup_cons_ite, Config.known, List.filter_cons]
    split
    · rw [lookup_cons_ite]
      exact if_congr Iff.rfl rfl ih
    · next foreign =>
      have other : k ≠ j := fun same => foreign (by simpa [same] using known)
      rw [if_neg other]
      exact ih

theorem lookup_perm {ms ms' : List (String × Json.Value)} (once : (ms.map (·.1)).Nodup) (perm : ms.Perm ms')
    (k : String) : ms.lookup k = ms'.lookup k := by
  have once' : (ms'.map (·.1)).Nodup := (perm.map _).nodup_iff.1 once
  refine Option.ext fun v => ?_
  rw [lookup_eq_some_iff once, lookup_eq_some_iff once', perm.mem_iff]

theorem lookup_zip {keys : List String} {items : List Json.Value} {j : Nat} {k : String} (once : keys.Nodup)
    (here : keys[j]? = some k) : (keys.zip items).lookup k = items[j]? := by
  induction keys generalizing items j with
  | nil => cases here
  | cons l keys ih =>
    obtain ⟨new, once⟩ := List.nodup_cons.1 once
    cases items with
    | nil => rfl
    | cons v items =>
      rw [List.zip_cons_cons, lookup_cons_ite]
      cases j with
      | zero =>
        cases here
        rw [if_pos rfl]
        rfl
      | succ j =>
        have mem : k ∈ keys := List.mem_of_getElem? here
        have other : k ≠ l := fun same => new (same ▸ mem)
        rw [if_neg other, ih once here]
        rfl

theorem nodup_keys_zip {keys : List String} (once : keys.Nodup) (items : List Json.Value) :
    ((keys.zip items).map (·.1)).Nodup := by
  induction keys generalizing items with
  | nil => exact List.nodup_nil
  | cons k keys ih =>
    obtain ⟨new, once⟩ := List.nodup_cons.1 once
    cases items with
    | nil => exact List.nodup_nil
    | cons v items =>
      rw [List.zip_cons_cons, List.map_cons]
      refine List.nodup_cons.2 ⟨fun mem => ?_, ih once items⟩
      obtain ⟨⟨j, w⟩, listed, rfl⟩ := List.mem_map.1 mem
      exact new (List.of_mem_zip listed).1

/-- Both ways are records and give the same for every field. -/
theorem Restyled.same {keys : List String} {v v' : Json.Value} (once : keys.Nodup) (restyled : Restyled keys v v') :
    (IsRecord keys.length v ∧ IsRecord keys.length v') ∧
      ∀ j k, keys[j]? = some k → part? v j k = part? v' j k := by
  cases restyled with
  | @object ms ms' unique perm =>
    refine ⟨⟨trivial, trivial⟩, fun j k here => ?_⟩
    have mem : k ∈ keys := List.mem_of_getElem? here
    have same := lookup_perm unique perm k
    rwa [lookup_known mem, lookup_known mem] at same
  | @array ms items short perm =>
    refine ⟨⟨trivial, short⟩, fun j k here => ?_⟩
    have mem : k ∈ keys := List.mem_of_getElem? here
    have same := lookup_perm (nodup_keys_zip once items) perm.symm k
    rw [lookup_known mem, lookup_zip once here] at same
    exact same.symm

/-! ## Documents -/

/-- Another way to write the root of a document, or one of its sections. -/
inductive Rewritten : Json.Value → Json.Value → Prop
  | root {v v' : Json.Value} : Restyled (layout.map (·.1)) v v' → Rewritten v v'
  | member {i : Nat} {n : String} {shape : Shape} {s s' : Json.Value} {before after : List (String × Json.Value)} :
      layout[i]? = some (n, shape) → Restyled (shape.map (·.1)) s s' →
      Rewritten (.obj (before ++ (n, s) :: after)) (.obj (before ++ (n, s') :: after))
  | item {n : String} {shape : Shape} {s s' : Json.Value} {before after : List Json.Value} :
      layout[before.length]? = some (n, shape) → Restyled (shape.map (·.1)) s s' →
      Rewritten (.arr (before ++ s :: after)) (.arr (before ++ s' :: after))

/-- Both documents give the same for every field. -/
structure SameGiven (v v' : Json.Value) : Prop where
  root : IsRecord layout.length v ↔ IsRecord layout.length v'
  inside : ∀ {i n shape}, layout[i]? = some (n, shape) →
    ((∀ s, part? v i n = some s → IsRecord shape.length s) ↔
      ∀ s, part? v' i n = some s → IsRecord shape.length s)
  given : ∀ {i n j k t}, FieldAt i n j k t → given? v i n j k = given? v' i n j k

theorem SameGiven.overlays {v v' : Json.Value} {c : ServiceHost.Config} (same : SameGiven v v')
    (overlays : Overlays v c) :
    Overlays v' c := by
  refine ⟨same.root.1 overlays.root, fun here part => ?_, fun field found => ?_, fun field missing => ?_⟩
  · exact (same.inside here).1 (fun _ => overlays.inside here) _ part
  · exact overlays.given field ((same.given field).trans found)
  · exact overlays.left field ((same.given field).trans missing)

theorem SameGiven.symm {v v' : Json.Value} (same : SameGiven v v') : SameGiven v' v :=
  ⟨same.root.symm, fun here => (same.inside here).symm, fun field => (same.given field).symm⟩

theorem SameGiven.ofJson? {v v' : Json.Value} (same : SameGiven v v') : ofJson? v' = ofJson? v := by
  refine Option.ext fun c => ?_
  rw [ofJson?_eq_some_iff, ofJson?_eq_some_iff]
  exact ⟨same.symm.overlays, same.overlays⟩

theorem nodup_layout : (layout.map (·.1)).Nodup ∧ ∀ s ∈ layout, (s.2.map (·.1)).Nodup := by
  simp [layout, Server.shape, Coordination.shape, Lifecycle.shape, Observability.shape]

theorem shape_of_name {i j : Nat} {n : String} {shape shape' : Shape} (here : layout[i]? = some (n, shape))
    (there : layout[j]? = some (n, shape')) : shape = shape' := by
  have first := (lookup_eq_some_iff nodup_layout.1).2 (List.mem_of_getElem? here)
  have second := (lookup_eq_some_iff nodup_layout.1).2 (List.mem_of_getElem? there)
  exact Option.some.inj (first.symm.trans second)

/-- Each section is the same in both, or written in another way. -/
theorem sameGiven_of_parts {v v' : Json.Value} (root : IsRecord layout.length v ↔ IsRecord layout.length v')
    (parts : ∀ i n shape, layout[i]? = some (n, shape) → part? v i n = part? v' i n ∨
      ∃ s s', part? v i n = some s ∧ part? v' i n = some s' ∧ Restyled (shape.map (·.1)) s s') :
    SameGiven v v' := by
  have keys {i : Nat} {n : String} {shape : Shape} (here : layout[i]? = some (n, shape)) :
      (shape.map (·.1)).Nodup := nodup_layout.2 _ (List.mem_of_getElem? here)
  refine ⟨root, fun {i n shape} here => ?_, ?_⟩
  · rcases parts i n shape here with same | ⟨s, s', found, found', restyled⟩
    · rw [same]
    · obtain ⟨⟨record, record'⟩, -⟩ := restyled.same (keys here)
      rw [List.length_map] at record record'
      exact ⟨fun _ s part => Option.some.inj (found'.symm.trans part) ▸ record',
        fun _ s part => Option.some.inj (found.symm.trans part) ▸ record⟩
  · rintro i n j k t ⟨shape, here, field⟩
    rcases parts i n shape here with same | ⟨s, s', found, found', restyled⟩
    · rw [given?, same, given?]
    · rw [given?, given?, found, found']
      exact (restyled.same (keys here)).2 j k (by rw [List.getElem?_map, field]; rfl)

theorem Rewritten.sameGiven {v v' : Json.Value} (rewritten : Rewritten v v') : SameGiven v v' := by
  cases rewritten with
  | root restyled =>
    obtain ⟨⟨record, record'⟩, same⟩ := restyled.same nodup_layout.1
    rw [List.length_map] at record record'
    refine sameGiven_of_parts ⟨fun _ => record', fun _ => record⟩ fun i n shape here => .inl ?_
    exact same i n (by rw [List.getElem?_map, here]; rfl)
  | @member _ m shape s s' before after there restyled =>
    refine sameGiven_of_parts Iff.rfl fun i n shape' here => ?_
    simp only [part?, List.lookup_append, lookup_cons_ite]
    cases before.lookup n with
    | some w => exact .inl rfl
    | none =>
      by_cases same : n = m
      · subst same
        rw [if_pos rfl, if_pos rfl, shape_of_name here there]
        exact .inr ⟨s, s', rfl, rfl, restyled⟩
      · rw [if_neg same, if_neg same]
        exact .inl rfl
  | @item m shape s s' before after there restyled =>
    refine sameGiven_of_parts (by simp [IsRecord]) fun i n shape' here => ?_
    simp only [part?]
    rcases Nat.lt_trichotomy i before.length with lt | rfl | gt
    · rw [List.getElem?_append_left lt, List.getElem?_append_left lt]
      exact .inl rfl
    · obtain ⟨-, rfl⟩ := Prod.mk.inj (Option.some.inj (here.symm.trans there))
      exact .inr ⟨s, s', by simp, by simp, restyled⟩
    · obtain ⟨k, rfl⟩ := Nat.exists_eq_add_of_lt gt
      rw [Nat.add_assoc, List.getElem?_append_right (Nat.le_add_right _ _),
        List.getElem?_append_right (Nat.le_add_right _ _), Nat.add_sub_cancel_left]
      exact .inl rfl

theorem ofJson?_rewritten {v v' : Json.Value} (rewritten : ReflTransGen Rewritten v v') :
    ofJson? v' = ofJson? v := by
  induction rewritten with
  | refl => rfl
  | tail _ step ih => rw [step.sameGiven.ofJson?, ih]

/-! ## Reading what was written -/

theorem exists_natural {c : ServiceHost.Config} {m : Nat} (mem : m ∈ c.naturals) : ∃ i n j k default,
    FieldAt i n j k .natural ∧ c.setting? n k = some (.natural m) ∧
      setting? {} n k = some (.natural default) ∧ default ≤ maxWord := by
  simp only [naturals, List.mem_cons, List.not_mem_nil, or_false] at mem
  rcases mem with rfl | rfl | rfl | rfl | rfl
  · exact ⟨0, _, 1, _, 30, ⟨_, rfl, rfl⟩, rfl, rfl, by decide⟩
  · exact ⟨0, _, 2, _, 2097152, ⟨_, rfl, rfl⟩, rfl, rfl, by decide⟩
  · exact ⟨1, _, 2, _, 5, ⟨_, rfl, rfl⟩, rfl, rfl, by decide⟩
  · exact ⟨2, _, 0, _, 5000, ⟨_, rfl, rfl⟩, rfl, rfl, by decide⟩
  · exact ⟨2, _, 1, _, 10000, ⟨_, rfl, rfl⟩, rfl, rfl, by decide⟩

/-- A document leaves a number at its default or gives one that fits. -/
theorem Overlays.fits {v : Json.Value} {c : ServiceHost.Config} (overlays : Overlays v c) :
    ∀ m ∈ c.naturals, m ≤ maxWord := by
  intro m mem
  obtain ⟨i, n, j, k, default, field, set, unset, small⟩ := exists_natural mem
  cases found : given? v i n j k with
  | none =>
    have same := overlays.left field found
    rw [set, unset, Option.some.injEq, Setting.natural.injEq] at same
    exact same ▸ small
  | some w =>
    obtain ⟨x, reads, same⟩ := overlays.given field found
    rw [set, Option.some.injEq] at same
    subst same
    cases reads with
    | natural fits => exact fits

/-! ## Documents that are refused -/

/-- A JSON value that is none for a field of this type. -/
inductive FieldType.Refuses : FieldType → Json.Value → Prop
  | text {v : Json.Value} : (∀ s, v ≠ .str s) → Refuses text v
  | word {v : Json.Value} : (∀ n, v ≠ .num n) → Refuses natural v
  | negative {n : Int} : n < 0 → Refuses natural (.num (.int n))
  | large {n : Int} : maxWord < n → Refuses natural (.num (.int n))
  /-- A number with a fraction or an exponent, whatever its value. -/
  | fractional (bits : UInt64) : Refuses natural (.num (.float bits))
  | flag {v : Json.Value} : (∀ b, v ≠ .bool b) → Refuses flag v
  | texts {v : Json.Value} : (∀ items, v ≠ .arr items) → Refuses texts v
  | item {items : List Json.Value} {v : Json.Value} : v ∈ items → (∀ s, v ≠ .str s) →
      Refuses texts (.arr items)
  | format {v : Json.Value} : (∀ l : LogFormat, v ≠ .str l.name ∧ v ≠ .obj [(l.name, .null)]) →
      Refuses format v

theorem FieldType.Refuses.not_reads {t : FieldType} {v : Json.Value} {x : Setting} (refuses : t.Refuses v) :
    ¬ t.Reads v x := by
  intro reads
  cases refuses with
  | text other => cases reads with | text s => exact other s rfl
  | word other => cases reads with | natural fits => exact other _ rfl
  | negative low => cases reads with | natural fits => omega
  | large high => cases reads with | natural fits => omega
  | fractional bits => cases reads
  | flag other => cases reads with | flag b => exact other b rfl
  | texts other => cases reads with | texts ss => exact other _ rfl
  | item mem other =>
    cases reads with
    | texts ss =>
      obtain ⟨s, -, rfl⟩ := List.mem_map.1 mem
      exact other s rfl
  | format other =>
    cases reads with
    | format l => exact (other l).1 rfl
    | formatKey l => exact (other l).2 rfl

/-- A document with one thing in it that has not the form it should have. -/
inductive Unfit (v : Json.Value) : Prop
  | root : ¬ IsRecord layout.length v → Unfit v
  | part {i : Nat} {n : String} {shape : Shape} {s : Json.Value} :
      layout[i]? = some (n, shape) → part? v i n = some s → ¬ IsRecord shape.length s → Unfit v
  | field {i j : Nat} {n k : String} {t : FieldType} {w : Json.Value} :
      FieldAt i n j k t → given? v i n j k = some w → t.Refuses w → Unfit v

theorem Unfit.ofJson?_eq_none {v : Json.Value} (unfit : Unfit v) : ofJson? v = none := by
  rw [Option.eq_none_iff_forall_ne_some]
  intro c read
  have overlays := ofJson?_eq_some_iff.1 read
  cases unfit with
  | root bad => exact bad overlays.root
  | part here found bad => exact bad (overlays.inside here found)
  | field field found refuses =>
    obtain ⟨x, reads, -⟩ := overlays.given field found
    exact refuses.not_reads reads

/-- A configuration is its document laid over the defaults, however the document is written. -/
theorem document_overlays_defaults (v : Json.Value) :
    (∀ c, ofJson? v = some c ↔ Overlays v c) ∧
    (∀ v', ReflTransGen Rewritten v v' → ofJson? v' = ofJson? v) ∧
    (∀ c, ofJson? v = some c → ofJson? c.toJson = some c ∧
      (Json.Value.ofString? c.toJson.compact).bind ofJson? = some c ∧
      (ofJson? c.toJson).map validate = (ofJson? v).map validate) ∧
    (Unfit v → ofJson? v = none) := by
  refine ⟨fun c => ofJson?_eq_some_iff, fun v' => ofJson?_rewritten, fun c read => ?_, Unfit.ofJson?_eq_none⟩
  have fits := (ofJson?_eq_some_iff.1 read).fits
  refine ⟨ofJson?_toJson fits, ofJson?_compact fits, ?_⟩
  rw [ofJson?_toJson fits, read]

/-- A section is moved and written as an array. -/
theorem moved_section_is_read_alike :
    let v : Json.Value :=
      .obj [("coordination", .obj [("endpoints", .arr []), ("enabled", .bool true)]), ("note", .null)]
    let v' : Json.Value := .obj [("note", .bool true), ("coordination", .arr [.bool true, .arr []])]
    ofJson? v = some { coordination := { enabled := true, endpoints := [] } } ∧ ofJson? v' = ofJson? v := by
  refine ⟨by rfl, (document_overlays_defaults _).2.1 _ ?_⟩
  have array : Restyled (Coordination.shape.map (·.1)) (.obj [("endpoints", .arr []), ("enabled", .bool true)])
      (.arr [.bool true, .arr []]) := .array (by decide) (List.Perm.swap _ _ _)
  have written := @Rewritten.member 1 _ _ _ _ [] [("note", .null)] rfl array
  exact .tail (.single written) (.root (.object (by decide) (.refl _)))

end ServiceHost.Config
