import ServiceHost.Decimal.Nearest
import ServiceHost.Text.Digit

/-! How numbers are written in TOML. Underscores may stand between digits. Integers are signed words of
64 bits; a number too large for binary64 is no number. -/

namespace ServiceHost.Toml

open Text (isDigit digit? digitsValue)

/-- The digits of a numeral, in which each underscore stands between two digits. -/
def digits? (base : Nat) : List Char → Option (List Nat)
  | [] => none
  | [c] => (digit? base c).map ([·])
  | c :: '_' :: rest => do return (← digit? base c) :: (← digits? base rest)
  | c :: rest => do return (← digit? base c) :: (← digits? base rest)

/-- Splits a sign off; `true` stands for minus. -/
def splitSign : List Char → Bool × List Char
  | '+' :: rest => (false, rest)
  | '-' :: rest => (true, rest)
  | s => (false, s)

/-- The digits of a decimal numeral without leading zeros. -/
def wholeDigits? (s : List Char) : Option (List Nat) := do
  let ds ← digits? 10 s
  if ds.length > 1 && ds.head? == some 0 then none else some ds

def word? (n : Int) : Option Int :=
  if -9223372036854775808 ≤ n && n ≤ 9223372036854775807 then some n else none

def integer? : List Char → Option Int
  | '0' :: 'x' :: rest => do word? (digitsValue 16 (← digits? 16 rest))
  | '0' :: 'o' :: rest => do word? (digitsValue 8 (← digits? 8 rest))
  | '0' :: 'b' :: rest => do word? (digitsValue 2 (← digits? 2 rest))
  | s => do
    let (negative, s) := splitSign s
    let n : Int := digitsValue 10 (← wholeDigits? s)
    word? (if negative then -n else n)

/-- The parts of a float: sign, digits before and after the point, and a signed exponent. -/
structure FloatNumeral where
  negative : Bool
  whole : List Nat
  fraction : List Nat
  exponent : Int

namespace FloatNumeral

/-- Whether no binary64 number is near enough. -/
def isTooLarge (f : FloatNumeral) : Bool :=
  (Decimal.nearest? (digitsValue 10 (f.whole ++ f.fraction))
    (f.exponent - f.fraction.length)).isNone

end FloatNumeral

/-- A float has a fraction, an exponent or both. -/
def floatNumeral? (s : List Char) : Option FloatNumeral := do
  let (negative, s) := splitSign s
  let isMark (c : Char) : Bool := c == 'e' || c == 'E'
  let mantissa := s.takeWhile (!isMark ·)
  let whole ← wholeDigits? (mantissa.takeWhile (· != '.'))
  let fraction ←
    match mantissa.dropWhile (· != '.') with
    | [] => some []
    | _ :: rest => digits? 10 rest
  match s.dropWhile (!isMark ·) with
  | [] => if fraction.isEmpty then none else some { negative, whole, fraction, exponent := 0 }
  | _ :: rest =>
    let (minus, rest) := splitSign rest
    let e : Int := digitsValue 10 (← digits? 10 rest)
    some { negative, whole, fraction, exponent := if minus then -e else e }

/-- Infinities and undefined numbers have names, with or without a sign. -/
def isNamedFloat (s : List Char) : Bool :=
  let (_, s) := splitSign s
  s == ['i', 'n', 'f'] || s == ['n', 'a', 'n']

def isFloat (s : List Char) : Bool :=
  isNamedFloat s ||
    match floatNumeral? s with
    | some f => f.negative || !f.isTooLarge
    | none => false

end ServiceHost.Toml
