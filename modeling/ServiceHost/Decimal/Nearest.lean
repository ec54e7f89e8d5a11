import ServiceHost.Decimal.Shortest

/-! The binary64 number nearest to a decimal. Arithmetic is exact, a tie goes to the even mantissa, and
what is too large for the format has no nearest number. -/

namespace ServiceHost.Decimal

/-- `n * 10 ^ k`. -/
def Ratio.ofDecimal (n : Nat) (k : Int) : Ratio :=
  if k ≥ 0 then ⟨n * Nat.pow 10 k.toNat, 1⟩ else ⟨n, Nat.pow 10 (-k).toNat⟩

/-- `r / 2 ^ q`. -/
def Ratio.unscaled (r : Ratio) (q : Int) : Ratio :=
  if q ≥ 0 then ⟨r.num, r.den * Nat.pow 2 q.toNat⟩ else ⟨r.num * Nat.pow 2 (-q).toNat, r.den⟩

def Ratio.floor (r : Ratio) : Nat := r.num / r.den

/-- The nearest natural number, of two the even one. -/
def Ratio.round (r : Ratio) : Nat :=
  match compare (2 * (r.num % r.den)) r.den with
  | .lt => r.floor
  | .gt => r.floor + 1
  | .eq => r.floor + r.floor % 2

/-- The exponent at which `r` has a mantissa of 53 bits, or the least exponent of the format. -/
def Ratio.exponent (r : Ratio) : Int :=
  let q : Int := (Nat.log2 r.num : Int) - Nat.log2 r.den - 53
  max (if (r.unscaled q).floor < Nat.pow 2 53 then q else q + 1) (-1074)

/-- The nearest number, `none` beyond the largest one. -/
def Ratio.nearest? (r : Ratio) : Option Binary :=
  let q := r.exponent
  let m := (r.unscaled q).round
  let b : Binary := if m = Nat.pow 2 53 then ⟨Nat.pow 2 52, q + 1⟩ else ⟨m, q⟩
  if b.exponent > 971 then none else some b

/-- The number nearest to `n * 10 ^ k`. The place of the leading digit tells at once what is too large
and what is nearest to zero. -/
def nearest? (n : Nat) (k : Int) : Option Binary :=
  let top : Int := (toString n).length + k
  if n = 0 || top < -330 then some ⟨0, -1074⟩
  else if top > 310 then none
  else (Ratio.ofDecimal n k).nearest?

/-- The text of a number with every place written. -/
def Binary.positional (b : Binary) : String :=
  if b.mantissa = 0 then "0" else (b.shortest.reduced 20).positional

end ServiceHost.Decimal
