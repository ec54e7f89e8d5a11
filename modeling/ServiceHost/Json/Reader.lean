import ServiceHost.Json.Number

/-! Reading JSON. A text is first read as a `Node`, the shape of the document with its leaves as written;
a node becomes a value when its numbers and texts mean something and it is not nested too deeply. -/

namespace ServiceHost.Json

inductive Node where
  | null
  | bool (b : Bool)
  | numeral (n : Numeral)
  | text (s : Option String)
  | arr (items : List Node)
  | obj (members : List (Option String × Node))

mutual

/-- One node from the front of the tokens. Every step takes a token, so their number bounds the steps. -/
def readNode : Nat → List Token → Option (Node × List Token)
  | 0, _ => none
  | fuel + 1, ts =>
    match ts with
    | .null :: ts => some (.null, ts)
    | .true :: ts => some (.bool true, ts)
    | .false :: ts => some (.bool false, ts)
    | .numeral n :: ts => some (.numeral n, ts)
    | .text s :: ts => some (.text s, ts)
    | .openBracket :: .closeBracket :: ts => some (.arr [], ts)
    | .openBracket :: ts => (readItems fuel ts).map fun r => (.arr r.1, r.2)
    | .openBrace :: .closeBrace :: ts => some (.obj [], ts)
    | .openBrace :: ts => (readMembers fuel ts).map fun r => (.obj r.1, r.2)
    | _ => none

def readItems : Nat → List Token → Option (List Node × List Token)
  | 0, _ => none
  | fuel + 1, ts =>
    match readNode fuel ts with
    | some (v, .closeBracket :: ts) => some ([v], ts)
    | some (v, .comma :: ts) => (readItems fuel ts).map fun r => (v :: r.1, r.2)
    | _ => none

def readMembers : Nat → List Token → Option (List (Option String × Node) × List Token)
  | 0, _ => none
  | fuel + 1, .text k :: .colon :: ts =>
    match readNode fuel ts with
    | some (v, .closeBrace :: ts) => some ([(k, v)], ts)
    | some (v, .comma :: ts) => (readMembers fuel ts).map fun r => ((k, v) :: r.1, r.2)
    | _ => none
  | _, _ => none

end

namespace Node

/-- The document that a text is. -/
def ofString? (s : String) : Option Node := do
  let ts ← tokens s
  match readNode (ts.length + 1) ts with
  | some (v, []) => some v
  | _ => none

mutual

def depth : Node → Nat
  | .arr items => depthItems items + 1
  | .obj members => depthMembers members + 1
  | _ => 0

def depthItems : List Node → Nat
  | [] => 0
  | v :: rest => max v.depth (depthItems rest)

def depthMembers : List (Option String × Node) → Nat
  | [] => 0
  | (_, v) :: rest => max v.depth (depthMembers rest)

end

mutual

/-- The value of a node, whatever its depth. -/
def leafValue? : Node → Option Value
  | .null => some .null
  | .bool b => some (.bool b)
  | .numeral n => n.number?.map .num
  | .text s => s.map .str
  | .arr items => (itemValues? items).map .arr
  | .obj members => (memberValues? members).map .obj

def itemValues? : List Node → Option (List Value)
  | [] => some []
  | v :: rest => do return (← v.leafValue?) :: (← itemValues? rest)

def memberValues? : List (Option String × Node) → Option (List (String × Value))
  | [] => some []
  | (k, v) :: rest => do return (← k, ← v.leafValue?) :: (← memberValues? rest)

end

/-- A value may have this many brackets open at once. -/
def maxDepth : Nat := 127

/-- The value of a node that stands inside `outer` open brackets. -/
def value? (outer : Nat) (v : Node) : Option Value :=
  if outer + v.depth ≤ maxDepth then v.leafValue?.map Value.canonical else none

end Node

/-- The value that a text stands for. -/
def Value.ofString? (s : String) : Option Value := (Node.ofString? s).bind (·.value? 0)

end ServiceHost.Json
