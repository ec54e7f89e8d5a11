/-! Digits and the numbers that they write. -/

namespace ServiceHost.Text

/-- The value of a digit in a base of at most sixteen; letters count in either case. -/
def digit? (base : Nat) (c : Char) : Option Nat :=
  let n :=
    if '0' ≤ c && c ≤ '9' then c.toNat - 48
    else if 'a' ≤ c && c ≤ 'f' then c.toNat - 87
    else if 'A' ≤ c && c ≤ 'F' then c.toNat - 55
    else base
  if n < base then some n else none

def isDigit (c : Char) : Bool := (digit? 10 c).isSome

def digitsValue (base : Nat) (ds : List Nat) : Nat := ds.foldl (fun n d => n * base + d) 0

/-- A number written in decimal digits. -/
def natural? (s : List Char) : Option Nat := do
  let ds ← s.mapM (digit? 10)
  if ds.isEmpty then none else some (digitsValue 10 ds)

/-- A decimal number of at most `max`, perhaps with leading zeros or a plus sign. -/
def unsigned? (max : Nat) (s : List Char) : Option Nat := do
  let n ←
    match s with
    | '+' :: rest => natural? rest
    | s => natural? s
  if max < n then none else some n

end ServiceHost.Text
