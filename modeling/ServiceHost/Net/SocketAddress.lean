import ServiceHost.Text.Digit

/-! Socket addresses: an IP address and a port, `a.b.c.d:port` or `[v6]:port`, the latter with an optional
scope. Readers take characters from the front and give back the rest. -/

namespace ServiceHost.Net

open Text (digit? digitsValue)

inductive Ip where
  | v4 (octets : List Nat)
  /-- Eight groups of sixteen bits. -/
  | v6 (groups : List Nat)
deriving DecidableEq

structure SocketAddress where
  ip : Ip
  port : Nat
deriving DecidableEq

abbrev Reader (α : Type) := List Char → Option (α × List Char)

/-- The digits at the front. -/
def readDigits (radix : Nat) : List Char → List Nat × List Char
  | [] => ([], [])
  | c :: rest =>
    match digit? radix c with
    | none => ([], c :: rest)
    | some d => let (ds, rest) := readDigits radix rest; (d :: ds, rest)

/-- A number of at least one digit and at most `maxDigits`, at most `max`. -/
def readNumber (radix : Nat) (maxDigits : Option Nat) (max : Nat) (leadingZeros : Bool) : Reader Nat :=
  fun s =>
    let (ds, rest) := readDigits radix s
    let n := digitsValue radix ds
    if ds.isEmpty || maxDigits.any (· < ds.length) || max < n ||
        (!leadingZeros && ds.length > 1 && ds.head? == some 0) then none
    else some (n, rest)

def readChar (c : Char) : Reader Unit
  | [] => none
  | d :: rest => if c == d then some ((), rest) else none

/-- A separator stands before every item but the first. -/
def readSeparated {α : Type} (separator : Char) (first : Bool) (r : Reader α) : Reader α := fun s =>
  if first then r s else (readChar separator s).bind fun x => r x.2

def readOctet : Reader Nat := readNumber 10 (some 3) 255 false

def readV4 : Reader (List Nat) := fun s => do
  let (a, s) ← readOctet s
  let (b, s) ← readSeparated '.' false readOctet s
  let (c, s) ← readSeparated '.' false readOctet s
  let (d, s) ← readSeparated '.' false readOctet s
  return ([a, b, c, d], s)

def readGroup : Reader Nat := readNumber 16 (some 4) 65535 true

/-- The groups that a v4 address stands for inside a v6 address. -/
def groupsOfOctets : List Nat → List Nat
  | [a, b, c, d] => [a * 256 + b, c * 256 + d]
  | _ => []

/-- Up to `limit` groups; the last two may be written as a v4 address, which ends them. -/
def readGroups (first : Bool) : Nat → List Char → (List Nat × Bool) × List Char
  | 0, s => (([], false), s)
  | limit + 1, s =>
    match if limit = 0 then none else readSeparated ':' first readV4 s with
    | some (octets, rest) => ((groupsOfOctets octets, true), rest)
    | none =>
      match readSeparated ':' first readGroup s with
      | none => (([], false), s)
      | some (g, rest) =>
        let ((gs, v4), rest) := readGroups false limit rest
        ((g :: gs, v4), rest)

/-- Eight groups, or fewer with `::` in place of at least one zero group. -/
def readV6 : Reader (List Nat) := fun s =>
  let ((head, v4), s) := readGroups true 8 s
  if head.length = 8 then some (head, s)
  else if v4 then none
  else do
    let (_, s) ← readChar ':' s
    let (_, s) ← readChar ':' s
    let ((tail, _), s) := readGroups true (7 - head.length) s
    return (head ++ List.replicate (8 - head.length - tail.length) 0 ++ tail, s)

def readPort : Reader Nat := fun s => do
  let (_, s) ← readChar ':' s
  readNumber 10 none 65535 true s

def readScope : Reader Nat := fun s => do
  let (_, s) ← readChar '%' s
  readNumber 10 none 4294967295 true s

def readV4Address : Reader SocketAddress := fun s => do
  let (octets, s) ← readV4 s
  let (port, s) ← readPort s
  return (⟨.v4 octets, port⟩, s)

def readV6Address : Reader SocketAddress := fun s => do
  let (_, s) ← readChar '[' s
  let (groups, s) ← readV6 s
  let s := ((readScope s).map (·.2)).getD s
  let (_, s) ← readChar ']' s
  let (port, s) ← readPort s
  return (⟨.v6 groups, port⟩, s)

def SocketAddress.ofString? (s : String) : Option SocketAddress :=
  match (readV4Address s.toList).orElse fun _ => readV6Address s.toList with
  | some (a, []) => some a
  | _ => none

/-- A port on its own is a plain number. -/
def port? (s : List Char) : Option Nat := Text.unsigned? 65535 s

/-- Splits at the last colon. -/
def splitLastColon (s : List Char) : Option (List Char × List Char) :=
  let tail := s.reverse.takeWhile (· != ':')
  match s.reverse.dropWhile (· != ':') with
  | [] => none
  | _ :: host => some (host.reverse, tail.reverse)

def hexText (n : Nat) : String := String.ofList (Nat.toDigits 16 n)

/-- The start and length of the first longest run of zero groups, if it is longer than one. -/
def longestZeros (groups : List Nat) : Option (Nat × Nat) :=
  let runs := (List.range groups.length).map fun i =>
    (i, ((groups.drop i).takeWhile (· == 0)).length)
  let best := runs.foldl (fun b r => if b.2 < r.2 then r else b) (0, 1)
  if best.2 > 1 then some best else none

def Ip.text : Ip → String
  | .v4 octets => ".".intercalate (octets.map toString)
  | .v6 [0, 0, 0, 0, 0, 65535, a, b] =>
      "::ffff:" ++ ".".intercalate ([a / 256, a % 256, b / 256, b % 256].map toString)
  | .v6 groups =>
    let part (gs : List Nat) := ":".intercalate (gs.map hexText)
    match longestZeros groups with
    | none => part groups
    | some (i, n) => part (groups.take i) ++ "::" ++ part (groups.drop (i + n))

end ServiceHost.Net
