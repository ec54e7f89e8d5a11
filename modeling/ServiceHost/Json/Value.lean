/-! JSON documents as values. Object members keep the order in which they were given; `canonical` puts
them in key order and keeps the last of several members with one key. -/

namespace ServiceHost.Json

/-- A number is an integer or the bits of a binary64 number. -/
inductive Number where
  | int (n : Int)
  | float (bits : UInt64)
deriving DecidableEq

inductive Value where
  | null
  | bool (b : Bool)
  | num (n : Number)
  | str (s : String)
  | arr (items : List Value)
  | obj (members : List (String × Value))

namespace Value

def ofNat (n : Nat) : Value := .num (.int n)

def ofOption {α : Type} (f : α → Value) : Option α → Value
  | none => .null
  | some a => f a

/-- The member with this key; of several, the last. -/
def get? (key : String) : Value → Option Value
  | .obj members => (members.reverse.find? (·.1 == key)).map (·.2)
  | _ => none

def str? : Value → Option String
  | .str s => some s
  | _ => none

def bool? : Value → Option Bool
  | .bool b => some b
  | _ => none

def nat? : Value → Option Nat
  | .num (.int (.ofNat n)) => some n
  | _ => none

def arr? : Value → Option (List Value)
  | .arr items => some items
  | _ => none

/-- Puts a member at its place in key order, replacing one with the same key. -/
def insertMember (key : String) (v : Value) : List (String × Value) → List (String × Value)
  | [] => [(key, v)]
  | (k, w) :: rest =>
    if key < k then (key, v) :: (k, w) :: rest
    else if key = k then (key, v) :: rest
    else (k, w) :: insertMember key v rest

mutual

def canonical : Value → Value
  | .arr items => .arr (canonicalItems items)
  | .obj members => .obj (canonicalMembers members)
  | v => v

def canonicalItems : List Value → List Value
  | [] => []
  | v :: rest => v.canonical :: canonicalItems rest

def canonicalMembers : List (String × Value) → List (String × Value)
  | [] => []
  | (k, v) :: rest =>
    let rest := canonicalMembers rest
    if rest.any (·.1 == k) then rest else insertMember k v.canonical rest

end

mutual

/-- How many brackets are open at the deepest place. -/
def depth : Value → Nat
  | .arr items => depthItems items + 1
  | .obj members => depthMembers members + 1
  | _ => 0

def depthItems : List Value → Nat
  | [] => 0
  | v :: rest => max v.depth (depthItems rest)

def depthMembers : List (String × Value) → Nat
  | [] => 0
  | (_, v) :: rest => max v.depth (depthMembers rest)

end

end Value

end ServiceHost.Json
