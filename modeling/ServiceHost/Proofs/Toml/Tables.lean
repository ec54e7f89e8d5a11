import ServiceHost.Proofs.Lookup
import ServiceHost.Toml.Table

/-! What statements do to the keys that interest somebody. Given the keys of some tables of a document, its
fields, a statement about anything else leaves the fields alone, and does the same whether the fields are
there or not. -/

namespace ServiceHost.Toml

namespace Members

/-! ## Changing a key -/

variable {key : String} {change : Option Node → Option Node} {ms ms' : Members}

/-- A change is made if the key allows it, and shows at this key only. -/
theorem alter_eq_some (altered : ms.alter key change = some ms') :
    ∃ n, change (ms.lookup key) = some n ∧
      ∀ k, ms'.lookup k = if k = key then some n else ms.lookup k := by
  induction ms generalizing ms' with
  | nil =>
    simp only [alter, Option.map_eq_some_iff] at altered
    obtain ⟨n, changed, rfl⟩ := altered
    exact ⟨n, changed, fun k => lookup_cons_ite k key n []⟩
  | cons m rest ih =>
    obtain ⟨j, old⟩ := m
    rw [alter] at altered
    split at altered
    · next same =>
      simp only [Option.map_eq_some_iff] at altered
      obtain ⟨n, changed, rfl⟩ := altered
      subst same
      refine ⟨n, by rwa [List.lookup_cons_self], fun k => ?_⟩
      rw [lookup_cons_ite, lookup_cons_ite]
      split <;> rfl
    · next other =>
      simp only [Option.map_eq_some_iff] at altered
      obtain ⟨more, altered, rfl⟩ := altered
      obtain ⟨n, changed, shows⟩ := ih altered
      refine ⟨n, by rwa [lookup_cons_ite, if_neg (Ne.symm other)], fun k => ?_⟩
      rw [lookup_cons_ite, lookup_cons_ite, shows]
      by_cases here : k = j
      · rw [if_pos here, if_pos here, if_neg (here ▸ other)]
      · rw [if_neg here, if_neg here]

theorem exists_alter {n : Node} (changed : change (ms.lookup key) = some n) :
    ∃ ms', ms.alter key change = some ms' := by
  induction ms with
  | nil => exact ⟨[(key, n)], by rw [alter, show change none = some n from changed, Option.map_some]⟩
  | cons m rest ih =>
    obtain ⟨j, old⟩ := m
    rw [lookup_cons_ite] at changed
    rw [alter]
    by_cases same : j = key
    · rw [if_pos same.symm] at changed
      exact ⟨_, by rw [if_pos same, changed, Option.map_some]⟩
    · rw [if_neg (Ne.symm same)] at changed
      obtain ⟨more, altered⟩ := ih changed
      exact ⟨_, by rw [if_neg same, altered, Option.map_some]⟩

theorem alter_refused (key : String) (ms : Members) : ms.alter key (fun _ => none) = none := by
  induction ms with
  | nil => rfl
  | cons m rest ih =>
    obtain ⟨j, old⟩ := m
    rw [alter, ih, Option.map_none, Option.map_none, ite_self]

/-- Every node seen through `g`, which may depend on the key. -/
def view (g : String → Node → Node) (ms : Members) : Members := ms.map fun m => (m.1, g m.1 m.2)

theorem view_cons (g : String → Node → Node) (k : String) (n : Node) (rest : Members) :
    view g ((k, n) :: rest) = (k, g k n) :: view g rest := rfl

/-- A change that goes on behind a view can be made on what is seen. -/
theorem alter_view {g : String → Node → Node} {seen : Option Node → Option Node}
    (commutes : ∀ n, seen (n.map (g key)) = (change n).map (g key)) (ms : Members) :
    (ms.view g).alter key seen = (ms.alter key change).map (view g) := by
  induction ms with
  | nil =>
    have first : seen none = (change none).map (g key) := commutes none
    rw [view, List.map_nil, alter, alter, first]
    cases change none <;> rfl
  | cons m rest ih =>
    obtain ⟨j, old⟩ := m
    rw [view_cons, alter, alter]
    by_cases same : j = key
    · have first : seen (some (g key old)) = (change (some old)).map (g key) := commutes (some old)
      rw [if_pos same, if_pos same, same, first]
      cases change (some old) <;> rfl
    · rw [if_neg same, if_neg same, ih]
      cases alter key change rest <;> rfl

/-- A change that does not show. -/
theorem view_alter {g : String → Node → Node} {old new : Node} (found : ms.lookup key = some old)
    (changed : change (some old) = some new) (hidden : g key new = g key old)
    (altered : ms.alter key change = some ms') : ms'.view g = ms.view g := by
  induction ms generalizing ms' with
  | nil => cases found
  | cons m rest ih =>
    obtain ⟨j, first⟩ := m
    rw [lookup_cons_ite] at found
    rw [alter] at altered
    by_cases same : j = key
    · rw [if_pos same.symm, Option.some.injEq] at found
      rw [if_pos same, found, changed, Option.map_some, Option.some.injEq] at altered
      rw [← altered, found, view_cons, view_cons, same, hidden]
    · rw [if_neg (Ne.symm same)] at found
      rw [if_neg same, Option.map_eq_some_iff] at altered
      obtain ⟨more, altered, rfl⟩ := altered
      rw [view_cons, view_cons, ih found altered]

/-- The members whose keys are kept. -/
def only (keep : String → Bool) (ms : Members) : Members := ms.filter (keep ·.1)

theorem only_cons (keep : String → Bool) (k : String) (n : Node) (rest : Members) :
    only keep ((k, n) :: rest) = if keep k then (k, n) :: only keep rest else only keep rest :=
  List.filter_cons

theorem only_all {keep : String → Bool} (all : ∀ k, keep k = true) (ms : Members) : ms.only keep = ms :=
  List.filter_eq_self.2 fun m _ => all m.1

/-- To change a kept key, the others do not matter. -/
theorem alter_only {keep : String → Bool} (kept : keep key = true) (change : Option Node → Option Node)
    (ms : Members) : (ms.only keep).alter key change = (ms.alter key change).map (only keep) := by
  induction ms with
  | nil =>
    rw [only, List.filter_nil, alter]
    cases change none <;> simp [only, kept]
  | cons m rest ih =>
    obtain ⟨j, old⟩ := m
    rw [only_cons, alter]
    by_cases same : j = key
    · rw [same, if_pos kept, if_pos rfl, alter, if_pos rfl]
      cases change (some old) <;> simp [only_cons, kept]
    · rw [if_neg same]
      by_cases listed : keep j = true
      · rw [if_pos listed, alter, if_neg same, ih]
        cases alter key change rest <;> simp [only_cons, listed]
      · rw [if_neg listed, ih]
        cases alter key change rest <;> simp [only_cons, listed]

/-- To change a key that is not kept does not show. -/
theorem only_alter {keep : String → Bool} (dropped : keep key = false)
    (altered : ms.alter key change = some ms') : ms'.only keep = ms.only keep := by
  induction ms generalizing ms' with
  | nil =>
    simp only [alter, Option.map_eq_some_iff] at altered
    obtain ⟨n, -, rfl⟩ := altered
    simp [only, dropped]
  | cons m rest ih =>
    obtain ⟨j, old⟩ := m
    rw [alter] at altered
    by_cases same : j = key
    · rw [if_pos same, Option.map_eq_some_iff] at altered
      obtain ⟨n, -, rfl⟩ := altered
      simp [only_cons, same, dropped]
    · rw [if_neg same, Option.map_eq_some_iff] at altered
      obtain ⟨more, altered, rfl⟩ := altered
      rw [only_cons, only_cons, ih altered]

/-! ## Paths -/

/-- Goes on in what a key holds. -/
def enter (dotted : Bool) (op : Origin → Members → Option Members) : Option Node → Option Node
  | none => (op (if dotted then .dotted else .implied) []).map (.table (if dotted then .dotted else .implied))
  | some (.value _) => none
  | some (.table origin inner) =>
    if dotted && origin == .header then none else (op origin inner).map (.table origin)
  | some (.tables front last) => (op .header last).map (.tables front)

theorem within_cons (dotted : Bool) (change : Origin → Members → Option Members) (key : String) (path : Path)
    (o : Origin) (ms : Members) :
    within dotted change (key :: path) o ms = ms.alter key (enter dotted (within dotted change path)) := by
  rw [within]
  congr 1

/-- Whatever the operation does, it does at this key. -/
def Touches (key : String) (op : Members → Option Members) : Prop :=
  ∃ change, ∀ ms, op ms = ms.alter key change

/-- In the table at the first key, the operation changes nothing but the second. -/
def TouchesBelow (key k : String) (op : Members → Option Members) : Prop :=
  ∃ dotted inner, (∀ o, Touches k (inner o)) ∧ ∀ ms, op ms = ms.alter key (enter dotted inner)

/-- The operation goes where this path leads, as far as the first two keys tell. -/
structure ActsAt (place : Path) (op : Members → Option Members) : Prop where
  first : ∀ x more, place = x :: more → Touches x op
  second : ∀ x k more, place = x :: k :: more → TouchesBelow x k op

theorem touches_refused (key : String) : Touches key fun _ => none :=
  ⟨fun _ => none, fun ms => (alter_refused key ms).symm⟩

theorem actsAt_refused (place : Path) : ActsAt place fun _ => none where
  first x _ _ := touches_refused x
  second x k _ _ := by
    refine ⟨false, fun _ _ => none, fun _ => touches_refused k, fun ms => ?_⟩
    have refused : enter false (fun _ _ => none) = fun _ => none := by
      funext n
      rcases n with _ | _ | _ | _ <;> rfl
    rw [refused, alter_refused]

variable {dotted : Bool} {change : Origin → Members → Option Members}

/-- An operation on the table at the end of a path. -/
theorem actsAt_within {front more : Path} (ends : ∀ o, ActsAt more (change o)) (o : Origin) :
    ActsAt (front ++ more) (within dotted change front o) := by
  induction front generalizing o with
  | nil => exact ends o
  | cons y front ih =>
    have step := within_cons dotted change y front o
    constructor
    · intro x rest split
      obtain ⟨rfl, -⟩ := List.cons.inj split
      exact ⟨_, step⟩
    · intro x k rest split
      obtain ⟨rfl, rest⟩ := List.cons.inj split
      exact ⟨dotted, _, fun o => (ih o).first k _ rest, step⟩

/-- An operation on a key of the table at the end of a path. -/
theorem actsAt_last {op : Members → Option Members} {place : Path}
    {ends : String → Origin → Members → Option Members} (touches : ∀ key o, Touches key (ends key o))
    (form : ∀ ms, op ms = match place.getLast? with
      | none => none
      | some key => within dotted (ends key) place.dropLast .header ms) : ActsAt place op := by
  rcases List.eq_nil_or_concat place with rfl | ⟨front, last, rfl⟩
  · exact ⟨nofun, nofun⟩
  · rw [List.concat_eq_append] at form ⊢
    simp only [List.getLast?_concat, List.dropLast_concat] at form
    rw [funext form]
    refine actsAt_within (fun o => ⟨?first, ?second⟩) .header
    case first =>
      intro x _ split
      obtain ⟨rfl, -⟩ := List.cons.inj split
      exact touches last o
    case second =>
      intro x k _ split
      simp at split

theorem actsAt_insert (path : Path) (v : Value) : ActsAt path (insert path v) := by
  refine actsAt_last (fun key o => ?_) fun _ => rfl
  by_cases refused : ((o == .dotted) == path.dropLast.isEmpty) = true
  · simp only [refused, if_true]
    exact touches_refused key
  · simp only [refused]
    exact ⟨_, fun _ => rfl⟩

theorem actsAt_openTable (path : Path) : ActsAt path (openTable path) :=
  actsAt_last (fun _ _ => ⟨_, fun _ => rfl⟩) fun _ => rfl

theorem actsAt_appendTable (path : Path) : ActsAt path (appendTable path) :=
  actsAt_last (fun _ _ => ⟨_, fun _ => rfl⟩) fun _ => rfl

end Members

/-! ## Statements -/

namespace Statement

/-- What a statement does to the document while the table with this path is open. -/
def act (current : Path) : Statement → Members → Option Members
  | .entry path t, ms =>
    t.value?.bind fun v => Members.within false (fun _ inner => inner.insert path v) current .header ms
  | .header path, ms => ms.openTable path
  | .item path, ms => ms.appendTable path

/-- The table that is open after a statement. -/
def next (current : Path) : Statement → Path
  | .entry _ _ => current
  | .header path => path
  | .item path => path

/-- The path of what a statement is about. -/
def place (current : Path) : Statement → Path
  | .entry path _ => current ++ path
  | .header path => path
  | .item path => path

theorem actsAt_place (current : Path) (t : Statement) : Members.ActsAt (t.place current) (t.act current) := by
  cases t with
  | header path => exact Members.actsAt_openTable path
  | item path => exact Members.actsAt_appendTable path
  | entry path t =>
    have form : (entry path t).act current = fun ms => t.value?.bind fun v =>
        Members.within false (fun _ inner => inner.insert path v) current .header ms := rfl
    rw [form]
    cases t.value? with
    | none => exact Members.actsAt_refused _
    | some v => exact Members.actsAt_within (fun _ => Members.actsAt_insert path v) .header

end Statement

theorem Draft.add_eq (d : Draft) (t : Statement) :
    d.add t = (t.act d.current d.members).map fun ms => ⟨ms, t.next d.current⟩ := by
  cases t with
  | header path =>
    simp only [add, Statement.act, Statement.next]
    cases d.members.openTable path <;> rfl
  | item path =>
    simp only [add, Statement.act, Statement.next]
    cases d.members.appendTable path <;> rfl
  | entry path t =>
    simp only [add, Statement.act, Statement.next]
    cases t.value? with
    | none => rfl
    | some v =>
      simp only [Option.bind_eq_bind, Option.bind_some]
      cases Members.within false (fun _ inner => inner.insert path v) d.current .header d.members <;> rfl

/-! ## Fields -/

section

-- which keys of which tables of the document are fields
variable (field : String → String → Bool)

/-- A node without the fields of its table `n`. -/
def Node.without (n : String) : Node → Node
  | .table o inner => .table o (Members.only (fun k => !field n k) inner)
  | node => node

namespace Members

/-- The document without the fields. -/
def without (ms : Members) : Members := ms.view (Node.without field)

/-- What a table has at a key. -/
def member? (k : String) : Option Node → Option Node
  | some (.table _ inner) => inner.lookup k
  | _ => none

/-- Nothing else stands where a table with fields belongs. -/
def Open (ms : Members) : Prop :=
  ∀ n k, field n k = true → ∀ node, ms.lookup n = some node → ∃ o inner, node = .table o inner

/-- The operation leaves all fields alone, and does the same without them. -/
structure Spares (op : Members → Option Members) : Prop where
  commutes : ∀ ms, op (ms.without field) = (op ms).map (without field)
  isOpen : ∀ ms ms', op ms = some ms' → ms.Open field → ms'.Open field
  member : ∀ ms ms', op ms = some ms' → ∀ n k, field n k = true →
    member? k (ms'.lookup n) = member? k (ms.lookup n)
  there : ∀ ms ms' n, op ms = some ms' → (ms.lookup n).isSome → (ms'.lookup n).isSome

variable {field}

/-- It is enough to look at the one key that is changed. -/
theorem spares_of_alter {x : String} {change : Option Node → Option Node} {op : Members → Option Members}
    (form : ∀ ms, op ms = ms.alter x change)
    (commutes : ∀ n, change (n.map (Node.without field x)) = (change n).map (Node.without field x))
    (isOpen : ∀ k, field x k = true → ∀ n n', change n = some n' →
      (∀ node, n = some node → ∃ o inner, node = .table o inner) → ∃ o inner, n' = .table o inner)
    (member : ∀ k, field x k = true → ∀ n n', change n = some n' → member? k (some n') = member? k n) :
    Spares field op where
  commutes ms := by rw [form, form, without, alter_view commutes]; rfl
  isOpen ms ms' done before n k known node found := by
    rw [form] at done
    obtain ⟨n', changed, shows⟩ := alter_eq_some done
    rw [shows] at found
    split at found
    · next same =>
      subst same
      cases found
      exact isOpen k known _ _ changed (before n k known)
    · exact before n k known node found
  member ms ms' done n k known := by
    rw [form] at done
    obtain ⟨n', changed, shows⟩ := alter_eq_some done
    rw [shows]
    split
    · next same =>
      subst same
      exact member k known _ _ changed
    · rfl
  there ms ms' n done before := by
    rw [form] at done
    obtain ⟨n', -, shows⟩ := alter_eq_some done
    rw [shows]
    split
    · rfl
    · exact before

theorem without_of_outside {x : String} (outside : ∀ k, field x k = false) (n : Node) :
    n.without field x = n := by
  cases n with
  | table o inner => rw [Node.without, only_all fun k => by rw [outside k]; rfl]
  | value => rfl
  | tables => rfl

/-- Keys of the document without fields. -/
theorem spares_of_touches {x : String} {op : Members → Option Members} (outside : ∀ k, field x k = false)
    (touches : Touches x op) : Spares field op := by
  obtain ⟨change, form⟩ := touches
  have same : Node.without field x = id := funext (without_of_outside outside)
  refine spares_of_alter form (fun n => ?_) (fun k known => ?_) fun k known => ?_
  · rw [same, Option.map_id]
    rfl
  · rw [outside] at known
    cases known
  · rw [outside] at known
    cases known

/-- Keys of a table that are no fields. -/
theorem spares_of_touchesBelow {x j : String} {op : Members → Option Members} (unknown : field x j = false)
    (below : TouchesBelow x j op) : Spares field op := by
  obtain ⟨dotted, inner, touches, form⟩ := below
  have kept : (!field x j) = true := by rw [unknown]; rfl
  have only (o : Origin) (ms : Members) : inner o (ms.only fun k => !field x k) =
      (inner o ms).map (Members.only fun k => !field x k) := by
    obtain ⟨change, same⟩ := touches o
    rw [same, same]
    exact alter_only kept change ms
  have other {o : Origin} {ms ms' : Members} (done : inner o ms = some ms') {k : String}
      (known : field x k = true) : ms'.lookup k = ms.lookup k := by
    obtain ⟨change, same⟩ := touches o
    rw [same] at done
    obtain ⟨n, -, shows⟩ := alter_eq_some done
    rw [shows, if_neg fun here => by rw [here, unknown] at known; cases known]
  refine spares_of_alter form (fun n => ?commutes) (fun k known n n' changed isTable => ?isOpen)
    fun k known n n' changed => ?member
  case commutes =>
    rcases n with _ | _ | ⟨o, old⟩ | ⟨front, last⟩
    · simp only [Option.map_none, enter, Option.map_map]
      generalize (if dotted then Origin.dotted else Origin.implied) = o
      have new : inner o [] = (inner o []).map (Members.only fun k => !field x k) := only o []
      refine (congrArg _ new).trans ?_
      rw [Option.map_map]
      rfl
    · rfl
    · simp only [Option.map_some, Node.without, enter, only]
      split
      · rfl
      · simp only [Option.map_map, Function.comp_def, Node.without]
    · simp only [Option.map_some, Node.without, enter, Option.map_map, Function.comp_def]
  case isOpen =>
    rcases n with _ | n
    · simp only [enter, Option.map_eq_some_iff] at changed
      obtain ⟨ms, -, rfl⟩ := changed
      exact ⟨_, _, rfl⟩
    · obtain ⟨o, old, rfl⟩ := isTable n rfl
      simp only [enter, Option.ite_none_left_eq_some, Option.map_eq_some_iff] at changed
      obtain ⟨-, ms, -, rfl⟩ := changed
      exact ⟨_, _, rfl⟩
  case member =>
    rcases n with _ | _ | ⟨o, old⟩ | ⟨front, last⟩
    · simp only [enter, Option.map_eq_some_iff] at changed
      obtain ⟨ms, done, rfl⟩ := changed
      exact other done known
    · cases changed
    · simp only [enter, Option.ite_none_left_eq_some, Option.map_eq_some_iff] at changed
      obtain ⟨-, ms, done, rfl⟩ := changed
      exact other done known
    · simp only [enter, Option.map_eq_some_iff] at changed
      obtain ⟨ms, -, rfl⟩ := changed
      rfl

/-- What is said of these paths says nothing of a field. -/
inductive Unknown (field : String → String → Bool) : Path → Prop
  | outside {x : String} {path : Path} (outside : ∀ k, field x k = false) : Unknown field (x :: path)
  | inside {x k : String} {path : Path} (unknown : field x k = false) : Unknown field (x :: k :: path)

theorem spares_of_unknown {place : Path} {op : Members → Option Members} (unknown : Unknown field place)
    (acts : ActsAt place op) : Spares field op := by
  cases unknown with
  | outside outside => exact spares_of_touches outside (acts.first _ _ rfl)
  | inside unknown => exact spares_of_touchesBelow unknown (acts.second _ _ _ rfl)

/-- The header of a table opens it and leaves its fields alone. -/
theorem spares_openTable (field : String → String → Bool) (n : String) : Spares field (openTable [n]) := by
  refine spares_of_alter (fun _ => rfl) (fun node => ?commutes) (fun _ _ node node' opened _ => ?isOpen)
    fun _ _ node node' opened => ?member
  case commutes => rcases node with _ | _ | ⟨_ | _ | _, _⟩ | _ <;> rfl
  case isOpen =>
    rcases node with _ | _ | ⟨_ | _ | _, _⟩ | _ <;> cases opened <;> exact ⟨_, _, rfl⟩
  case member =>
    rcases node with _ | _ | ⟨_ | _ | _, _⟩ | _ <;> cases opened <;> rfl

/-- A table that is not there can be opened. -/
theorem exists_openTable {n : String} {ms : Members} (absent : ms.lookup n = none) :
    ∃ ms', openTable [n] ms = some ms' ∧ ∀ k, k ≠ n → ms'.lookup k = ms.lookup k := by
  obtain ⟨ms', opened⟩ : ∃ ms', openTable [n] ms = some ms' :=
    exists_alter (n := .table .header []) (by rw [List.getLast_singleton, absent])
  obtain ⟨_, -, shows⟩ := alter_eq_some opened
  rw [List.getLast_singleton] at shows
  exact ⟨ms', opened, fun k other => by rw [shows, if_neg other]⟩

theorem isSome_openTable {n : String} {ms ms' : Members} (opened : openTable [n] ms = some ms') :
    (ms'.lookup n).isSome := by
  obtain ⟨node, -, shows⟩ := alter_eq_some opened
  rw [shows, List.getLast_singleton, if_pos rfl]
  rfl

theorem insert_key (k : String) (v : Value) (ms : Members) :
    ms.insert [k] v = ms.alter k fun
      | none => some (.value v)
      | some _ => none := rfl

/-- A field that is not there yet can be given its value in a table that is there. -/
theorem exists_field {n k : String} {ms : Members} (v : Value) (known : field n k = true)
    (there : (ms.lookup n).isSome) (isOpen : ms.Open field) (absent : member? k (ms.lookup n) = none) :
    ∃ ms', within false (fun _ inner => inner.insert [k] v) [n] .header ms = some ms' ∧
      ms'.without field = ms.without field ∧ ms'.Open field ∧
      (∀ n, (ms.lookup n).isSome → (ms'.lookup n).isSome) ∧
      ∀ n' k', member? k' (ms'.lookup n') =
        if n' = n ∧ k' = k then some (.value v) else member? k' (ms.lookup n') := by
  obtain ⟨node, found⟩ := Option.isSome_iff_exists.1 there
  obtain ⟨o, inner, rfl⟩ := isOpen n k known node found
  rw [found] at absent
  obtain ⟨inner', inserted⟩ : ∃ inner' : Members, insert [k] v inner = some inner' := by
    rw [insert_key]
    exact exists_alter (n := .value v) (by rw [show List.lookup k inner = none from absent])
  let change := enter false fun _ inner => insert [k] v inner
  have changed : change (ms.lookup n) = some (.table o inner') := by
    rw [found]
    change (insert [k] v inner).map (Node.table o) = _
    rw [inserted, Option.map_some]
  obtain ⟨ms', altered⟩ := exists_alter changed
  obtain ⟨node, same, shows⟩ := alter_eq_some altered
  obtain rfl : node = .table o inner' := Option.some.inj (same.symm.trans changed)
  rw [insert_key] at inserted
  obtain ⟨_, new, inside⟩ := alter_eq_some inserted
  rw [show List.lookup k inner = none from absent] at new
  cases new
  refine ⟨ms', altered, ?hidden, ?isOpen, ?there, ?member⟩
  case hidden =>
    have unseen : inner'.only (fun k => !field n k) = Members.only (fun k => !field n k) inner :=
      only_alter (by rw [known]; rfl) inserted
    rw [found] at changed
    exact view_alter found changed (by rw [Node.without, Node.without, unseen]) altered
  case isOpen =>
    intro n' k' known' node found'
    rw [shows] at found'
    split at found'
    · cases found'
      exact ⟨_, _, rfl⟩
    · exact isOpen n' k' known' node found'
  case there =>
    intro n' there'
    rw [shows]
    split
    · rfl
    · exact there'
  case member =>
    intro n' k'
    rw [shows]
    by_cases here : n' = n
    · subst here
      rw [if_pos rfl, found]
      simp only [member?, inside, true_and]
    · rw [if_neg here, if_neg fun both => here both.1]

end Members

end

end ServiceHost.Toml
