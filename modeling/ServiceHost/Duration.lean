/-! Lengths of time counted in nanoseconds, and their text: the largest unit of s, ms, µs and ns in
which the length is at least one, with the exact fraction and no trailing zeros. -/

namespace ServiceHost

structure Duration where
  nanos : Nat
deriving DecidableEq

namespace Duration

def zero : Duration := ⟨0⟩

def ofSecs (n : Nat) : Duration := ⟨n * 1000000000⟩

def ofMillis (n : Nat) : Duration := ⟨n * 1000000⟩

/-- Timers tick in milliseconds, so a length of time is armed as its ceiling. -/
def ceilMillis (d : Duration) : Nat := (d.nanos + 999999) / 1000000

/-- The digits of a fraction `n / 10 ^ width`, most significant first. -/
def fractionDigits : Nat → Nat → List Char
  | 0, _ => []
  | width + 1, n => fractionDigits width (n / 10) ++ [Nat.digitChar (n % 10)]

def dropTrailingZeros (cs : List Char) : List Char :=
  (cs.reverse.dropWhile (· == '0')).reverse

/-- The text of `n` units of `10 ^ width` parts each. -/
def inUnit (n width : Nat) (unit : String) : String :=
  let fraction := dropTrailingZeros (fractionDigits width (n % Nat.pow 10 width))
  let point := if fraction.isEmpty then "" else "."
  toString (n / Nat.pow 10 width) ++ point ++ String.ofList fraction ++ unit

def text (d : Duration) : String :=
  if d.nanos ≥ Nat.pow 10 9 then inUnit d.nanos 9 "s"
  else if d.nanos ≥ Nat.pow 10 6 then inUnit d.nanos 6 "ms"
  else if d.nanos ≥ Nat.pow 10 3 then inUnit d.nanos 3 "µs"
  else inUnit d.nanos 0 "ns"

end Duration

end ServiceHost
