import ServiceHost.Toml.Statement

/-! The tables that statements build. A table may be opened by a header once; a table that was only passed
through on the way to another may still be opened; a table made by a key of several parts takes further
entries in that way only. -/

namespace ServiceHost.Toml

inductive Value where
  | scalar (v : Scalar)
  | array (items : List Value)
  | table (members : List (String × Value))

/-- How a table under construction came to be. -/
inductive Origin where
  /-- By a header of its own, or as the whole document. -/
  | header
  /-- On the way to a table with a longer path. -/
  | implied
  /-- By the path of an entry. -/
  | dotted
deriving DecidableEq

inductive Node where
  | value (v : Value)
  | table (origin : Origin) (members : List (String × Node))
  /-- A list of tables, which is never empty. -/
  | tables (front : List (List (String × Node))) (last : List (String × Node))

abbrev Members := List (String × Node)

/-- Changes what a key holds, `none` when it holds nothing; the change may be refused. -/
def Members.alter (key : String) (change : Option Node → Option Node) : Members → Option Members
  | [] => (change none).map fun n => [(key, n)]
  | (k, n) :: rest =>
    if k = key then (change (some n)).map fun n => (k, n) :: rest
    else (Members.alter key change rest).map ((k, n) :: ·)

/-- Changes the table that a path leads to. `dotted` paths, those of entries, do not enter tables that
have a header. -/
def Members.within (dotted : Bool) (change : Origin → Members → Option Members) :
    Path → Origin → Members → Option Members
  | [], origin, ms => change origin ms
  | key :: path, _, ms =>
    ms.alter key fun n =>
      match n with
      | none =>
        let origin := if dotted then .dotted else .implied
        (Members.within dotted change path origin []).map (.table origin)
      | some (.value _) => none
      | some (.table origin inner) =>
        if dotted && origin == .header then none
        else (Members.within dotted change path origin inner).map (.table origin)
      | some (.tables front last) =>
        (Members.within dotted change path .header last).map (.tables front)

/-- Gives a key its value, in a table that an entry may enter and that does not have the key. -/
def Members.insert (path : Path) (v : Value) (ms : Members) : Option Members :=
  match path.getLast? with
  | none => none
  | some key =>
    Members.within true (fun origin inner =>
      if (origin == .dotted) == path.dropLast.isEmpty then none
      else inner.alter key fun n =>
        match n with
        | none => some (.value v)
        | some _ => none) path.dropLast .header ms

/-- Opens the table that a header names. -/
def Members.openTable (path : Path) (ms : Members) : Option Members :=
  match path.getLast? with
  | none => none
  | some key =>
    Members.within false (fun _ inner =>
      inner.alter key fun n =>
        match n with
        | none => some (.table .header [])
        | some (.table .implied members) => some (.table .header members)
        | some _ => none) path.dropLast .header ms

/-- Appends a table to the list of tables that a path names. -/
def Members.appendTable (path : Path) (ms : Members) : Option Members :=
  match path.getLast? with
  | none => none
  | some key =>
    Members.within false (fun _ inner =>
      inner.alter key fun n =>
        match n with
        | none => some (.tables [] [])
        | some (.tables front last) => some (.tables (front ++ [last]) [])
        | some _ => none) path.dropLast .header ms

/-! ## From nodes to values -/

mutual

def Node.toValue : Node → Value
  | .value v => v
  | .table _ ms => .table (memberValues ms)
  | .tables front last => .array (tableValues front ++ [.table (memberValues last)])

def memberValues : List (String × Node) → List (String × Value)
  | [] => []
  | (k, n) :: rest => (k, n.toValue) :: memberValues rest

def tableValues : List (List (String × Node)) → List Value
  | [] => []
  | ms :: rest => .table (memberValues ms) :: tableValues rest

end

/-! ## From statements to values -/

mutual

/-- A table within braces is built like a document of entries and is closed then. -/
def Term.value? : Term → Option Value
  | .scalar v => some (.scalar v)
  | .array items => (itemValues? items).map .array
  | .braces entries => (insertAll? entries []).map fun ms => .table (memberValues ms)

def itemValues? : List Term → Option (List Value)
  | [] => some []
  | t :: rest => do return (← t.value?) :: (← itemValues? rest)

def insertAll? : List (Path × Term) → Members → Option Members
  | [], ms => some ms
  | (path, t) :: rest, ms => do insertAll? rest (← ms.insert path (← t.value?))

end

/-- A document under construction, with the path of the table that is open. -/
structure Draft where
  members : Members := []
  current : Path := []

def Draft.add (d : Draft) : Statement → Option Draft
  | .entry path t => do
    let v ← t.value?
    let ms ← Members.within false (fun _ inner => inner.insert path v) d.current .header d.members
    return { d with members := ms }
  | .header path => do return { members := ← d.members.openTable path, current := path }
  | .item path => do return { members := ← d.members.appendTable path, current := path }

/-- The document that a text describes, as the members of its outermost table. -/
def read? (s : String) : Option (List (String × Value)) := do
  let ts ← statements? s
  let d ← ts.foldlM Draft.add {}
  return memberValues d.members

end ServiceHost.Toml
