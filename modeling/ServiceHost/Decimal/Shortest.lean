/-! The shortest decimal that reads back as a given binary64 number, and its text. Arithmetic is exact:
a number is `m * 2 ^ q`, and the reals that round to it form an interval around it. -/

namespace ServiceHost.Decimal

/-- A positive finite binary64 number `mantissa * 2 ^ exponent`. -/
structure Binary where
  mantissa : Nat
  exponent : Int
deriving DecidableEq

/-- The magnitude held by the bits of a binary64 number, `none` for infinities and NaNs. -/
def Binary.ofBits? (bits : UInt64) : Option Binary :=
  let fraction : Nat := bits.toNat % Nat.pow 2 52
  let biased : Nat := bits.toNat / Nat.pow 2 52 % Nat.pow 2 11
  if biased = 2047 then none
  else if biased = 0 then some ⟨fraction, -1074⟩
  else some ⟨Nat.pow 2 52 + fraction, (biased : Int) - 1075⟩

/-- A quotient of naturals; the denominator is positive. -/
structure Ratio where
  num : Nat
  den : Nat

/-- `n * 2 ^ q`. -/
def Ratio.scaled (n : Nat) (q : Int) : Ratio :=
  if q ≥ 0 then ⟨n * Nat.pow 2 q.toNat, 1⟩ else ⟨n, Nat.pow 2 (-q).toNat⟩

/-- How the decimal `n * 10 ^ k` compares with `r`. -/
def Ratio.compareDecimal (r : Ratio) (n : Nat) (k : Int) : Ordering :=
  if k ≥ 0 then compare (n * Nat.pow 10 k.toNat * r.den) r.num
  else compare (n * r.den) (r.num * Nat.pow 10 (-k).toNat)

/-- The largest `n` with `n * 10 ^ k ≤ r`. -/
def Ratio.floorAt (r : Ratio) (k : Int) : Nat :=
  if k ≥ 0 then r.num / (r.den * Nat.pow 10 k.toNat) else r.num * Nat.pow 10 (-k).toNat / r.den

/-- The digits `n` and the power `k` of a decimal `n * 10 ^ k`. -/
structure Digits where
  n : Nat
  k : Int
deriving DecidableEq

/-- Whether `n * 10 ^ k` rounds to `b`. Everything is measured in quarters of `b`'s last place; the
gap below a power of two is half as wide, and ends count when the mantissa is even. -/
def Binary.accepts (b : Binary) (n : Nat) (k : Int) : Bool :=
  let endsCount := b.mantissa % 2 == 0
  let gap := if b.mantissa = Nat.pow 2 52 && b.exponent > -1074 then 1 else 2
  let low := (Ratio.scaled (4 * b.mantissa - gap) (b.exponent - 2)).compareDecimal n k
  let high := (Ratio.scaled (4 * b.mantissa + 2) (b.exponent - 2)).compareDecimal n k
  (low == .gt || endsCount && low == .eq) && (high == .lt || endsCount && high == .eq)

/-- The decimal on the grid of `10 ^ k` that is nearest to `b` among those that round to it; a tie goes
to the even digit. -/
def Binary.onGrid? (b : Binary) (k : Int) : Option Digits :=
  let r := Ratio.scaled b.mantissa b.exponent
  let n := r.floorAt k
  match b.accepts n k && n ≠ 0, b.accepts (n + 1) k with
  | true, true =>
    match (Ratio.mk (2 * r.num) r.den).compareDecimal (2 * n + 1) k with
    | .gt => some ⟨n, k⟩
    | .lt => some ⟨n + 1, k⟩
    | .eq => some ⟨if n % 2 = 0 then n else n + 1, k⟩
  | true, false => some ⟨n, k⟩
  | false, true => some ⟨n + 1, k⟩
  | false, false => none

/-- The power of ten of `b`'s leading digit, or one more. -/
def Binary.top (b : Binary) : Int :=
  let r := Ratio.scaled b.mantissa b.exponent
  if r.num ≥ r.den then ((toString (r.num / r.den)).length : Int) - 1
  else -((toString (r.den / r.num)).length : Int)

/-- Tries the grids from `k` down, coarsest first. -/
def Binary.search (b : Binary) : Nat → Int → Digits
  | 0, k => ⟨0, k⟩
  | fuel + 1, k =>
    match b.onGrid? k with
    | some d => d
    | none => b.search fuel (k - 1)

def Binary.shortest (b : Binary) : Digits := b.search 20 (b.top + 1)

/-- Drops trailing zeros of the digits. -/
def Digits.reduced (d : Digits) : Nat → Digits
  | 0 => d
  | fuel + 1 => if d.n ≠ 0 && d.n % 10 = 0 then Digits.reduced ⟨d.n / 10, d.k + 1⟩ fuel else d

/-- Every place is written, and a point only before places after it. -/
def Digits.positional (d : Digits) : String :=
  let ds := (toString d.n).toList
  let point : Int := ds.length + d.k
  if 0 ≤ d.k then String.ofList (ds ++ List.replicate d.k.toNat '0')
  else if 0 < point then String.ofList (ds.take point.toNat ++ ['.'] ++ ds.drop point.toNat)
  else String.ofList (['0', '.'] ++ List.replicate (-point).toNat '0' ++ ds)

/-- Positional from `10 ^ -5` up to `10 ^ 16` with at least one place after the point, scientific
elsewhere, with the sign of the exponent. -/
def Digits.text (d : Digits) : String :=
  let ds := (toString d.n).toList
  let point : Int := ds.length + d.k
  if -5 < point && point ≤ 16 then d.positional ++ (if 0 ≤ d.k then ".0" else "")
  else
    let tail := if ds.length = 1 then [] else '.' :: ds.drop 1
    let mark := if 0 < point then ['e', '+'] else ['e']
    String.ofList (ds.take 1 ++ tail ++ mark) ++ toString (point - 1)

/-- The text of the number with these bits; `null` stands for what has no decimal. -/
def textOfBits (bits : UInt64) : String :=
  let sign := if bits ≥ 0x8000000000000000 then "-" else ""
  match Binary.ofBits? bits with
  | none => "null"
  | some b =>
    if b.mantissa = 0 then sign ++ "0.0"
    else sign ++ (b.shortest.reduced 20).text

end ServiceHost.Decimal
