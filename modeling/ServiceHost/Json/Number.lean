import ServiceHost.Json.Token

/-! The number that a numeral stands for. An integer that fits 64 bits stays an integer. Everything else
becomes a binary64 number: the digits that fit 64 bits, scaled by one power of ten. -/

namespace ServiceHost.Json

def maxWord : Nat := 18446744073709551615

/-- Appends digits while the result fits a word; also gives how many were left over. -/
def appendWhole (significand : Nat) : List Nat → Nat × Nat
  | [] => (significand, 0)
  | d :: ds =>
    if significand * 10 + d ≤ maxWord then appendWhole (significand * 10 + d) ds
    else (significand, ds.length + 1)

/-- Appends digits after the point while the result fits a word and ignores the rest. -/
def appendFraction (significand : Nat) (scale : Int) : List Nat → Nat × Int
  | [] => (significand, scale)
  | d :: ds =>
    if significand * 10 + d ≤ maxWord then appendFraction (significand * 10 + d) (scale - 1) ds
    else (significand, scale)

/-- Scales by a power of ten in steps that stay within the exponents of the format. -/
def scaleFloat : Nat → Float → Int → Option Float
  | 0, f, _ => some f
  | steps + 1, f, scale =>
    if scale > 308 then if f == 0 then some f else none
    else if scale ≥ 0 then
      let g := f * Float.ofScientific 1 false scale.toNat
      if g.isInf then none else some g
    else if scale ≥ -308 then some (f / Float.ofScientific 1 false (-scale).toNat)
    else if f == 0 then some f
    else scaleFloat steps (f / Float.ofScientific 1 false 308) (scale + 308)

def floatNumber? (negative : Bool) (significand : Nat) (scale : Int) : Option Number :=
  (scaleFloat 4 significand.toUInt64.toFloat scale).map fun f =>
    .float (if negative then (-f).toBits else f.toBits)

/-- Beyond this an exponent is not read any further. -/
def maxExponent : Nat := 2147483647

/-- `none` when the number is too large for its format. -/
def Numeral.number? (n : Numeral) : Option Number :=
  let (whole, dropped) := appendWhole 0 n.whole
  if n.fraction.isEmpty && n.exponent.isNone && dropped = 0 then
    if !n.negative then some (.int whole)
    else if whole = 0 || whole > 9223372036854775808 then floatNumber? true whole 0
    else some (.int (-(whole : Int)))
  else
    let (significand, scale) := appendFraction whole dropped n.fraction
    match n.exponent with
    | none => floatNumber? n.negative significand scale
    | some (minus, ds) =>
      let e := Text.digitsValue 10 ds
      if e > maxExponent then
        if significand ≠ 0 && !minus then none else floatNumber? n.negative 0 0
      else floatNumber? n.negative significand (if minus then scale - e else scale + e)

end ServiceHost.Json
